import ConfinedShell.Proofs.Chronicle
import ConfinedShell.Proofs.Echoing

/-!
# What `history` shows

The entries of the history are joined to one text, and the session cuts that text into rows again. Cutting takes a
carriage return off each row and drops an empty last one, so it is not the inverse of joining for all lines. It is for
the lines that are noted: these are trimmed and not blank, and so they begin and end with characters that are not blank
(`Text.tidy_trim`), among which a carriage return is not.

**`history` is faithful.** In any session that is new at first, whatever has been processed, it shows the trimmed texts
of the lines that were not blank, in order, a line of the transcript for each (`Session.history_faithful`). A line feed
within a line would part it; a line that is read from the keyboard holds none.
-/

set_option autoImplicit false

namespace ConfinedShell

/-! ## Trimmed texts -/

namespace Text

/-- What is left when a front is dropped begins with an element that is not dropped. -/
theorem exists_head?_dropWhile {p : Char → Bool} {cs : List Char} (some : ¬ ∀ c ∈ cs, p c = true) :
    ∃ c, (cs.dropWhile p).head? = .some c ∧ p c = false := by
  induction cs with
  | nil => exact absurd nofun some
  | cons c rest ih =>
    cases drops : p c with
    | false => exact ⟨c, by simp [drops], drops⟩
    | true =>
      rw [List.dropWhile_cons_of_pos drops]
      exact ih fun all => some (List.forall_mem_cons.mpr ⟨drops, all⟩)

/-- **A trimmed text is tidy** unless it was blank. -/
theorem tidy_trim {s : String} (filled : ¬ AllBlank s) : Tidy (trim s).toList := by
  rw [trim, String.toList_ofList, trimBlanks, trimEnd]
  obtain ⟨c, begins, notBlank⟩ := exists_head?_dropWhile filled
  have filledBehind : ¬ ∀ c ∈ (s.toList.dropWhile isBlank).reverse, isBlank c = true := by
    simp only [List.mem_reverse]
    exact fun all => filled (all_dropWhile.mp all)
  obtain ⟨d, ends, lastNotBlank⟩ := exists_head?_dropWhile filledBehind
  refine ⟨⟨c, ?_, notBlank⟩, d, List.getLast?_reverse.trans ends, lastNotBlank⟩
  -- Only the end is cut off, and something is left, so the first character is still the first one.
  have front := List.reverse_prefix.mpr (List.dropWhile_suffix isBlank : _ <:+ (s.toList.dropWhile isBlank).reverse)
  rw [List.reverse_reverse] at front
  obtain ⟨rest, left⟩ := List.head?_eq_some_iff.mp ends
  obtain ⟨cut, whole⟩ := front
  rw [left] at whole ⊢
  rw [← begins, ← whole]
  simp

/-- What is in a trimmed text was there before. -/
theorem mem_of_mem_trim {s : String} {c : Char} (mem : c ∈ (trim s).toList) : c ∈ s.toList := by
  rw [trim, String.toList_ofList, trimBlanks, trimEnd, List.mem_reverse] at mem
  exact (List.dropWhile_sublist _).subset (List.mem_reverse.mp ((List.dropWhile_sublist _).subset mem))

/-- Nothing is left of a text exactly when it was blank. -/
theorem trim_eq_empty_iff {s : String} : trim s = "" ↔ AllBlank s := by
  constructor
  · intro empty
    by_contra filled
    obtain ⟨c, begins, -⟩ := (tidy_trim filled).begins
    simp [empty] at begins
  · intro blank
    rw [trim, trimBlanks, List.dropWhile_eq_nil_iff.mpr blank]
    rfl

/-- **Trimming twice** is trimming once. -/
theorem trim_trim (s : String) : trim (trim s) = trim s := by
  by_cases blank : AllBlank s
  · rw [trim_eq_empty_iff.mpr blank]
    decide
  · rw [trim, (tidy_trim blank).trimBlanks, String.ofList_toList]

/-- **Joined lines are the rows of their text** when each of them is one line and tidy. -/
theorem rows_joinWith_of_tidy {lines : List String} (fine : ∀ line ∈ lines, OneLine line ∧ Tidy line.toList) :
    rows (joinWith "\n" lines) = lines := by
  refine rows_joinWith (fun line mem => ?_) (fun empty => ?_)
  · obtain ⟨oneLine, tidy⟩ := fine line mem
    obtain ⟨c, ends, notBlank⟩ := tidy.ends
    refine ⟨oneLine, fun returns => ?_⟩
    rw [EndsInReturn, ends, Option.some_inj] at returns
    rw [returns] at notBlank
    cases notBlank
  · obtain ⟨c, ends, -⟩ := (fine "" (List.mem_of_getLast? empty)).2.ends
    cases ends

end Text

/-! ## What is shown -/

/-- `history` shows the rows of what was noted before its own line. -/
theorem Commands.history_run (around : Surroundings) (arguments : List String) (scene : Scene) :
    ∃ output, history.run around arguments scene = .ok output scene ∧
      output.shown = Text.rows (Text.joinWith "\n" around.history.dropLast) ∧ output ≠ .clear := by
  rw [history]
  dsimp only
  cases around.history.dropLast with
  | nil => exact ⟨.silent, rfl, by decide, nofun⟩
  | cons first rest => exact ⟨.text (Text.joinWith "\n" (first :: rest)), rfl, rfl, nofun⟩

namespace Session

variable {σ : Type} {session : Session σ} {now : Moment} {line : String} {arguments : List String}

/-- **A line is noteworthy** when it can be in the history: it is one line, and tidy. -/
structure Noteworthy (line : String) : Prop where
  oneLine : Text.OneLine line
  tidy : Text.Tidy line.toList

/-- What events note is noteworthy, when no processed line holds a line feed. -/
theorem noteworthy_of_mem_notedOver {events : List Event} {entry : String}
    (oneLine : ∀ now line, .process now line ∈ events → Text.OneLine line) (noted : entry ∈ notedOver events) :
    Noteworthy entry := by
  obtain ⟨event, mem, noted⟩ := List.mem_flatMap.mp noted
  cases event with
  | process now line =>
    by_cases blank : Text.AllBlank line
    · rw [Event.noted, if_pos blank] at noted
      cases noted
    · rw [Event.noted, if_neg blank, List.mem_singleton] at noted
      rw [noted]
      exact ⟨fun lineFeed => oneLine now line mem (Text.mem_of_mem_trim lineFeed), Text.tidy_trim blank⟩
  | poll | flush | clear => cases noted

/-- **What `history` adds**: what the session has noted before. -/
theorem transcript_history (found : session.registry.find? "history" = some Commands.history)
    (noteworthy : ∀ entry ∈ session.history, Noteworthy entry) (now : Moment)
    (tokens : tokenize (Text.trim line) = some ("history", arguments)) :
    (session.process now line).transcript =
      session.transcript ++ (echoMark ++ Text.trim line) :: session.history := by
  obtain ⟨output, ended, shown, keeps⟩ :=
    Commands.history_run ((session.noted (Text.trim line)).surroundings now) arguments session.scene
  have previous : ((session.noted (Text.trim line)).surroundings now).history.dropLast = session.history :=
    List.dropLast_concat
  rw [(Ends.of_run tokens found ended).transcript_process keeps, shown, previous,
    Text.rows_joinWith_of_tidy fun entry mem => ⟨(noteworthy entry mem).oneLine, (noteworthy entry mem).tidy⟩]

/-- The commands are the same after a run. -/
theorem registry_performAll (events : List Event) : (session.performAll events).registry = session.registry := by
  induction events generalizing session with
  | nil => rfl
  | cons event rest ih =>
    rw [performAll, ih]
    cases event with
    | process now line => exact (session.process_leaves now line).1
    | poll | flush | clear => rfl

/-- **`history` is faithful.** Take a new session with any commands, `history` among them, and any subscribers, and a
run in which no processed line holds a line feed: blank lines, lines that fail or break down, cleared screens. A line
that asks for the history then adds its echo to the transcript and behind it the trimmed texts of the lines that were
not blank, each as one line, in order, and nothing else. -/
theorem history_faithful (registry : Registry) (sandbox : Sandbox) (clock : Clock) (tree : FileTree) (audience : σ)
    (subscribers : List (Subscriber σ)) (found : registry.find? "history" = some Commands.history)
    {events : List Event} (oneLine : ∀ now line, .process now line ∈ events → Text.OneLine line)
    (tokens : tokenize (Text.trim line) = some ("history", arguments)) (now : Moment) :
    let reached := { start registry sandbox clock tree audience with subscribers }.performAll events
    (reached.process now line).transcript = reached.transcript ++ (echoMark ++ Text.trim line) :: notedOver events := by
  intro reached
  have history : reached.history = notedOver events := (logs_performAll _ events).1
  have known : reached.registry.find? "history" = some Commands.history := by
    rw [registry_performAll]
    exact found
  have noteworthy : ∀ entry ∈ reached.history, Noteworthy entry := by
    rw [history]
    exact fun entry noted => noteworthy_of_mem_notedOver oneLine noted
  rw [← history]
  exact transcript_history known noteworthy now tokens

end Session

namespace Rehearsal

/-- Lines that break down, are blank, clear the screen, are unknown and fail, and one that holds a carriage return and a
separator of lines. -/
def motley : List Session.Event :=
  [.process 0 "boom", .process 1 "\u2003\u00a0 ", .process 2 "clear", .process 3 "\u3000 echo a\rb\u2028c\t\r", .poll 4,
    .process 5 "nope", .process 6 "cat missing "]

/-- All but the blank one are shown, each as one line. -/
theorem history_faithful_of_motley :
    let reached := session.performAll motley
    (∀ now line, .process now line ∈ motley → Text.OneLine line) ∧
      (reached.process 7 " history  all").transcript = reached.transcript ++
        ["> history  all", "boom", "clear", "echo a\rb\u2028c", "nope", "cat missing"] := by
  have found : registry.find? "history" = some Commands.history := rfl
  have oneLine : ∀ now line, .process now line ∈ motley → Text.OneLine line := by
    intro now line mem
    simp only [motley, List.mem_cons, Session.Event.process.injEq, reduceCtorEq, List.not_mem_nil, or_false,
      false_or] at mem
    rcases mem with ⟨-, rfl⟩ | ⟨-, rfl⟩ | ⟨-, rfl⟩ | ⟨-, rfl⟩ | ⟨-, rfl⟩ | ⟨-, rfl⟩ <;> decide
  have tokens : tokenize (Text.trim " history  all") = some ("history", ["all"]) := by decide +kernel
  have echo : echoMark ++ Text.trim " history  all" = "> history  all" := by decide +kernel
  have noted : Session.notedOver motley = ["boom", "clear", "echo a\rb\u2028c", "nope", "cat missing"] := by
    decide +kernel
  have shown := Session.history_faithful registry sandbox clock tree Listener.start listeners found oneLine tokens 7
  rw [echo, noted] at shown
  exact ⟨oneLine, shown⟩

/-- A line feed within a line parts it. -/
example : ((session.process 0 "echo a\nb").process 1 "history").transcript =
    ["> echo a\nb", "a b", "> history", "echo a", "b"] := by
  decide +kernel

end Rehearsal

end ConfinedShell
