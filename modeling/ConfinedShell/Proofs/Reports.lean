import ConfinedShell.Proofs.Footprint
import ConfinedShell.Proofs.Reading

/-!
# What a report tells

A line that is answered adds its answer to the transcript, and from the outside the transcript is all that is seen. The
one line that reports a failure begins with one of three phrases (`Session.Complaint`). So a report of another form
stands for a command that has ended, with an output that shows just this report (`Session.ended_of_added`).
-/

set_option autoImplicit false

namespace ConfinedShell.Session

variable {σ : Type} {session : Session σ} {now : Moment} {line name text : String} {arguments : List String}

/-- **A complaint** begins like a line that reports a failure. -/
def Complaint (text : String) : Prop :=
  ∃ phrase ∈ ["usage: ", "command not recognized: ", "Error in "], phrase.toList <+: text.toList

instance (text : String) : Decidable (Complaint text) :=
  inferInstanceAs (Decidable (∃ phrase ∈ _, _))

/-- The first letter of a complaint. -/
theorem Complaint.head? (complaint : Complaint text) :
    text.toList.head? = some 'u' ∨ text.toList.head? = some 'c' ∨ text.toList.head? = some 'E' := by
  obtain ⟨phrase, mem, rest, spelt⟩ := complaint
  rw [← spelt]
  simp only [List.mem_cons, List.not_mem_nil, or_false] at mem
  rcases mem with rfl | rfl | rfl <;> simp

/-- Every failure is reported with a complaint. -/
theorem complaint_failureLine (name : String) (cause : Failure) : Complaint (failureLine name cause) := by
  have begins (phrase rest : String) : phrase.toList <+: (phrase ++ rest).toList := by
    rw [String.toList_append]
    exact List.prefix_append _ _
  have other (rest : String) : Complaint ("Error in " ++ name ++ ": " ++ rest) := by
    refine ⟨"Error in ", by simp, ?_⟩
    rw [String.append_assoc, String.append_assoc]
    exact begins _ _
  cases cause with
  | usage text => exact ⟨"usage: ", by simp, begins _ _⟩
  | unknownCommand name => exact ⟨"command not recognized: ", by simp, begins _ _⟩
  | _ => exact other _

/-- **The command of a line ends** with an output, in a scene. -/
structure Ends (session : Session σ) (now : Moment) (line name : String) (arguments : List String) (output : Output)
    (after : Scene) : Prop where
  tokens : tokenize (Text.trim line) = some (name, arguments)
  dispatched : (session.noted (Text.trim line)).dispatch now name arguments = .ok output after

namespace Ends

variable {output : Output} {after : Scene}

/-- A line ends as its command does, -/
theorem of_run {command : Command} (tokens : tokenize (Text.trim line) = some (name, arguments))
    (found : session.registry.find? name = some command)
    (ended : command.run ((session.noted (Text.trim line)).surroundings now) arguments session.scene =
      .ok output after) : session.Ends now line name arguments output after :=
  ⟨tokens, (dispatch_noted_of_found found _ now arguments).trans ended⟩

/-- and its output answers it. -/
theorem answered (ends : session.Ends now line name arguments output after) :
    session.response? now line = some (.ok output) :=
  response?_of_ok ends.tokens ends.dispatched

/-- What the output shows is behind the echo, unless the screen is cleared. -/
theorem transcript_process (ends : session.Ends now line name arguments output after) (keeps : output ≠ .clear) :
    (session.process now line).transcript =
      session.transcript ++ (echoMark ++ Text.trim line) :: output.shown := by
  rw [Session.transcript_process, ends.answered]
  cases output with
  | clear => exact absurd rfl keeps
  | _ => rfl

/-- The line adds what the output shows. -/
theorem added (ends : session.Ends now line name arguments output after) :
    session.added now line = output.shown := by
  have transcript := session.transcript_process now line
  rw [ends.answered] at transcript
  rw [Session.added]
  cases output with
  | clear =>
    rw [transcript]
    exact List.drop_nil
  | _ =>
    rw [transcript]
    exact List.drop_length_add_append 1

/-- The line leaves the scene that its command leaves. -/
theorem scene_process (ends : session.Ends now line name arguments output after) :
    (session.process now line).scene = after :=
  scene_process_of_ok ends.tokens ends.dispatched

/-- The command is the one that is registered. -/
theorem run (ends : session.Ends now line name arguments output after) {command : Command}
    (found : session.registry.find? name = some command) :
    command.run ((session.noted (Text.trim line)).surroundings now) arguments session.scene = .ok output after :=
  (dispatch_noted_of_found found _ now arguments).symm.trans ends.dispatched

end Ends

/-- A line whose command ends in a fault adds the report of the failure. -/
theorem adds_of_error {fault : Fault} {after : Scene} (tokens : tokenize (Text.trim line) = some (name, arguments))
    (ended : (session.noted (Text.trim line)).dispatch now name arguments = .error fault after) :
    session.Adds now line [failureLine name fault.toFailure] := by
  unfold Adds
  rw [session.transcript_process now line, response?_of_error tokens ended]

theorem added_of_error {fault : Fault} {after : Scene} (tokens : tokenize (Text.trim line) = some (name, arguments))
    (ended : (session.noted (Text.trim line)).dispatch now name arguments = .error fault after) :
    session.added now line = [failureLine name fault.toFailure] :=
  (adds_of_error tokens ended).added

/-- A line that fails adds the report of its failure. -/
theorem Fails.added {failure : Failure} (fails : session.Fails now line name failure) :
    session.added now line = [failureLine name failure] := by
  obtain ⟨arguments, fault, after, tokens, ended, rfl, -⟩ := fails.dispatch
  exact added_of_error tokens ended

/-- **A report that is no complaint** was shown by an output. -/
theorem ended_of_added (tokens : tokenize (Text.trim line) = some (name, arguments))
    (reported : session.added now line = [text]) (fine : ¬ Complaint text) :
    ∃ output after, session.Ends now line name arguments output after ∧ output.shown = [text] := by
  cases ended : (session.noted (Text.trim line)).dispatch now name arguments with
  | ok output after =>
    have ends : session.Ends now line name arguments output after := ⟨tokens, ended⟩
    exact ⟨output, after, ends, ends.added.symm.trans reported⟩
  | error fault after =>
    rw [added_of_error tokens ended, List.singleton_inj] at reported
    exact absurd (reported ▸ complaint_failureLine name _) fine

end ConfinedShell.Session
