import ConfinedShell.Proofs.Display
import ConfinedShell.Proofs.Remembering

/-!
# Recalling lines with arrows

A terminal lets its cursor over the lines be moved by arrows, and then a blank line runs the line at the cursor. What is
run depends on four things that are kept apart: the entries of the cursor and its place, the line that is recalled, and
the history of the session. Only the last arrow of a line decides what is recalled, while the place is kept from one
line of arrows to the next.

**The place is computed from the arrows alone** (`Arrow.place`): it begins behind the newest entry, and an arrow moves
it by one and never beyond the ends. Of a run, those arrows count that the prompt has read since a line that is not
blank was submitted (`Terminal.arrowsSince`). A terminal is **attuned** to its arrows when its cursor stands at their
place over the entries that the history has gained (`Terminal.Attuned`); each step keeps it attuned, and so the line at
that place is the one that runs (`Terminal.recall_runs_entry`).

The cursor knows the lines that were processed since the terminal was made. When the session was new then, these are all
of its history.
-/

set_option autoImplicit false

namespace ConfinedShell

/-! ## Arrows and places -/

namespace Arrow

/-- Where an arrow leads from a place in front of one of `n` entries, or behind the last one. -/
def move (n place : Nat) : Arrow → Nat
  | up => place - 1
  | down => min (place + 1) n

/-- **The place that arrows lead to** from behind the last of `n` entries. -/
def place (n : Nat) (arrows : List Arrow) : Nat :=
  arrows.foldl (move n) n

theorem move_le {n place : Nat} (within : place ≤ n) (arrow : Arrow) : move n place arrow ≤ n := by
  cases arrow with
  | up => exact Nat.le_trans (Nat.sub_le _ _) within
  | down => exact Nat.min_le_right _ _

/-- Arrows lead to one of the places. -/
theorem place_le (n : Nat) (arrows : List Arrow) : place n arrows ≤ n := by
  have kept (within : Nat) (le : within ≤ n) : arrows.foldl (move n) within ≤ n := by
    induction arrows generalizing within with
    | nil => exact le
    | cons arrow rest ih => exact ih _ (move_le le arrow)
  exact kept n (Nat.le_refl n)

/-- A blank line is none of arrows. -/
theorem parse?_of_blank {text : String} (blank : Text.AllBlank text) : parse? text = none := by
  rw [parse?]
  cases spelt : text.toList with
  | nil => rfl
  | cons c rest =>
    have isBlank : Text.isBlank c = true := blank c (spelt ▸ List.mem_cons_self)
    have other : c ≠ '\x1b' := by
      rintro rfl
      cases isBlank
    rw [parseAll?]
    · rfl
    · simp
    · rintro _ _ _ ⟨⟩
      exact other rfl

end Arrow

namespace Recall

/-- The cursor after arrows. -/
def moved (cursor : Recall) (arrows : List Arrow) : Recall :=
  arrows.foldl (fun cursor arrow =>
    match arrow with
    | .up => cursor.up
    | .down => cursor.down) cursor

/-- **Arrows move the cursor** among the same entries. -/
theorem moved_spec (cursor : Recall) (arrows : List Arrow) :
    (cursor.moved arrows).entries = cursor.entries ∧
      (cursor.moved arrows).position = arrows.foldl (Arrow.move cursor.entries.length) cursor.position := by
  induction arrows generalizing cursor with
  | nil => exact ⟨rfl, rfl⟩
  | cons arrow rest ih =>
    cases arrow with
    | up => exact ih cursor.up
    | down => exact ih cursor.down

/-- A step up leads to an entry when there is one. -/
theorem up_lt (cursor : Recall) (some : cursor.entries ≠ []) : cursor.up.position < cursor.entries.length := by
  have up : cursor.up.position = cursor.position - 1 := rfl
  have le := cursor.position_le
  have length : 0 < cursor.entries.length := List.length_pos_iff.mpr some
  omega

end Recall

namespace Terminal

variable {terminal : Terminal} {earlier : List String} {arrows : List Arrow}

/-- The cursor over the lines that were processed. -/
def cursor (terminal : Terminal) : Recall :=
  terminal.session.audience.cursor

/-- The arrows that the prompt reads; an editor reads none. -/
def arrowsRead (terminal : Terminal) : Received → List Arrow
  | .line text => if terminal.editor.isSome then [] else (Arrow.parse? text).getD []
  | .malformed => []

/-- The arrows that count after a step: a submitted line that is not blank makes those before it void. -/
def arrowsAfter (terminal : Terminal) (arrows : List Arrow) (received : Received) : List Arrow :=
  match terminal.submitted? received with
  | some line => if Text.AllBlank line then arrows else []
  | none => arrows ++ terminal.arrowsRead received

/-- **The arrows that count** after received lines. -/
def arrowsSince : Terminal → List Arrow → List Received → List Arrow
  | _, arrows, [] => arrows
  | terminal, arrows, received :: rest =>
    (terminal.step received).1.tick.arrowsSince (terminal.arrowsAfter arrows received) rest

/-- The terminal once it has taken received lines, while it takes more. -/
def advance : Terminal → List Received → Option Terminal
  | terminal, [] => some terminal
  | terminal, received :: rest =>
    match (terminal.step received).2.2 with
    | .running => (terminal.step received).1.tick.advance rest
    | _ => none

/-- A step of a settled terminal that takes more lines leaves it settled. -/
theorem Settled.step (settled : terminal.Settled) {received : Received}
    (runs : (terminal.step received).2.2 = .running) : (terminal.step received).1.Settled := by
  obtain ⟨left, status, -⟩ := terminal.stepOn_sound [] received
  obtain ⟨settled', -⟩ := (settled.stepOn Writer.sound [] received).done fun stop failed =>
    Status.noConfusion (failed.symm.trans (status.trans runs))
  exact left ▸ settled'

/-- The terminals that a settled one reaches are settled. -/
theorem Settled.advance {reached : Terminal} {taken : List Received} (settled : terminal.Settled)
    (advanced : terminal.advance taken = some reached) : reached.Settled := by
  induction taken generalizing terminal with
  | nil =>
    cases advanced
    exact settled
  | cons received rest ih =>
    rw [Terminal.advance] at advanced
    split at advanced
    · next runs => exact ih (settled.step runs).tick advanced
    · cases advanced

/-- **A terminal is attuned** to arrows when the history is what it was at first and then the entries of the cursor, and
the cursor stands at the place of the arrows. No dialogue waits, and each entry is a trimmed line that is not blank. -/
structure Attuned (terminal : Terminal) (earlier : List String) (arrows : List Arrow) : Prop where
  listeners : terminal.session.subscribers = [Listener.recordLine, Listener.advanceMission]
  history : terminal.session.history = earlier ++ terminal.cursor.entries
  position : terminal.cursor.position = Arrow.place terminal.cursor.entries.length arrows
  told : terminal.session.audience.tracker.messages = []
  entries : ∀ entry ∈ terminal.cursor.entries, ¬ Text.AllBlank entry ∧ Text.trim entry = entry

/-! ## A line that is run -/

/-- A session of which everything has been shown: neither a line nor a dialogue waits, and nothing is asked for. -/
def shownSession (session : Session Listener) : Session Listener :=
  { session.flush with
    audience := ⟨session.audience.cursor, { session.audience.tracker with messages := [] }⟩
    cleared := false
    editorRequest := none }

@[simp] theorem history_shownSession (session : Session Listener) : (shownSession session).history = session.history :=
  rfl

@[simp] theorem subscribers_shownSession (session : Session Listener) :
    (shownSession session).subscribers = session.subscribers :=
  rfl

@[simp] theorem audience_shownSession (session : Session Listener) : (shownSession session).audience =
    ⟨session.audience.cursor, { session.audience.tracker with messages := [] }⟩ :=
  rfl

/-- What is shown of a line leaves a session of which everything has been shown. -/
theorem session_conclude (terminal : Terminal) (session : Session Listener) (line : String) :
    (terminal.conclude session line).1.session = shownSession session := by
  let counted := terminal.counted session (tokenize (Text.trim line)).isSome
  have concluded : (terminal.conclude session line).1 = counted.shownAll.openEditor.1 := rfl
  have waited : counted.printNew.1.wait.1.session = counted.session.flush := session_wait counted.printNew.1
  rw [concluded, session_openEditor, shownAll, tellMissions, waited]
  rfl

/-- **What a line that is run leaves of the session**: it is processed, and then everything is shown. -/
theorem session_runLine {line : String} (returned : (terminal.session.handle terminal.now line).2 = false) :
    (terminal.runLine line).1.session = shownSession (terminal.session.process terminal.now line) := by
  rw [runLine_of_returned returned, session_conclude]

/-- The history gains a line that is run, even if its call breaks down. -/
theorem history_runLine (terminal : Terminal) (line : String) :
    (terminal.runLine line).1.session.history =
      terminal.session.history ++ Session.Event.noted (.process terminal.now line) := by
  have history := (terminal.session.logs_perform (.process terminal.now line)).1
  rw [Session.perform_process] at history
  cases broke : (terminal.session.handle terminal.now line).2 with
  | true => rw [runLine_of_broke broke, history]
  | false => rw [session_runLine broke, history_shownSession, history]

/-- Nothing is shown by a terminal that is settled and has no dialogue to tell, and it stays as it is. -/
theorem Settled.idle (settled : terminal.Settled) (told : terminal.session.audience.tracker.messages = []) :
    terminal.printNew = (terminal, "") ∧ terminal.wait = (terminal, "") ∧ terminal.tellMissions = (terminal, "") ∧
      terminal.openEditor = (terminal, "") := by
  obtain ⟨drained, printed, uncleared, unasked⟩ := settled
  refine ⟨?_, ?_, ?_, ?_⟩
  · rw [printNew, printed, List.drop_length, ← printed]
    rfl
  · exact waitRounds_of_never (Schedule.nextDue?_eq_none.mpr drained) _
  · have quiet : terminal.session.audience.tracker.takeMessages = ([], terminal.session.audience.tracker) := by
      rw [Tracker.takeMessages, told, ← told]
    rw [tellMissions, quiet]
    rfl
  · have unmade : terminal.session.takeEditorRequest = (none, terminal.session) := by
      rw [Session.takeEditorRequest, unasked, ← unasked]
    rw [openEditor, unmade]

/-- A blank line that is run leaves a settled terminal as it is. -/
theorem Settled.runLine_of_blank (settled : terminal.Settled) (told : terminal.session.audience.tracker.messages = [])
    {line : String} (blank : Text.AllBlank line) : (terminal.runLine line).1 = terminal.forgotten ∧
      (terminal.runLine line).2.1 = "" := by
  have forgotten : terminal.forgotten.Settled := settled.of_sameDisplay ⟨rfl, rfl, rfl, rfl, rfl⟩
  have tokens := tokenize_trim_eq_none.mpr blank
  obtain ⟨printNew, wait, tells, opens⟩ := forgotten.idle told
  have idle : terminal.session.handle terminal.now line = (terminal.session, false) :=
    Session.handle_of_blank tokens terminal.now
  have untaken : terminal.session.takeCleared.2 = terminal.session := by
    rw [Session.takeCleared, ← settled.uncleared]
  have uncounted : terminal.forgotten.counted terminal.session false = terminal.forgotten := by
    rw [counted, untaken, settled.uncleared]
    rfl
  have unchanged : terminal.forgotten.conclude terminal.session line =
      (terminal.forgotten, "",
        if terminal.forgotten.editor.isSome then .running else terminal.forgotten.status) := by
    rw [conclude, present]
    dsimp only
    rw [tokens, Option.isSome_none, uncounted, settled.uncleared]
    simp only [Bool.false_eq_true, if_false, printNew, wait, tells, opens]
    rfl
  have returned : (terminal.session.handle terminal.now line).2 = false := by rw [idle]
  rw [runLine_of_returned returned, Session.process_of_blank tokens, unchanged]
  exact ⟨rfl, rfl⟩

/-- A line that is not blank is recorded by the cursor as it is noted. -/
theorem cursor_process {session : Session Listener} {line : String}
    (listeners : session.subscribers = [Listener.recordLine, Listener.advanceMission]) (filled : ¬ Text.AllBlank line)
    {now : Moment} (returns : session.Returns (.process now line)) :
    (session.process now line).audience.cursor = session.audience.cursor.record (Text.trim line) := by
  obtain ⟨-, -, audience⟩ := session.logs_perform (.process now line)
  have told : session.told (.process now line) = [Text.trim line] := by
    rw [Session.told, if_pos returns]
    exact if_neg filled
  rw [Session.perform_process, Session.notices, told, listeners] at audience
  rw [audience]
  rfl

/-- What neither notes a line nor moves the cursor keeps the terminal attuned. -/
theorem Attuned.of_same (attuned : terminal.Attuned earlier arrows) {after : Terminal}
    (listeners : after.session.subscribers = terminal.session.subscribers)
    (told : after.session.audience.tracker.messages = [])
    (history : after.session.history = terminal.session.history) (cursor : after.cursor = terminal.cursor) :
    after.Attuned earlier arrows where
  listeners := listeners.trans attuned.listeners
  history := by rw [history, cursor]; exact attuned.history
  position := by rw [cursor]; exact attuned.position
  told := told
  entries := by rw [cursor]; exact attuned.entries

/-- A line that is noted and recorded puts the cursor behind it, so that no arrow counts. -/
theorem Attuned.of_recorded (attuned : terminal.Attuned earlier arrows) {after : Terminal} {line : String}
    (filled : ¬ Text.AllBlank line) (listeners : after.session.subscribers = terminal.session.subscribers)
    (told : after.session.audience.tracker.messages = [])
    (history : after.session.history = terminal.session.history ++ [Text.trim line])
    (cursor : after.cursor = terminal.cursor.record (Text.trim line)) : after.Attuned earlier [] where
  listeners := listeners.trans attuned.listeners
  history := by
    rw [history, cursor, attuned.history]
    exact List.append_assoc _ _ _
  position := by rw [cursor]; rfl
  told := told
  entries := by
    rw [cursor]
    intro entry mem
    rcases List.mem_append.mp mem with mem | mem
    · exact attuned.entries entry mem
    · rw [List.mem_singleton.mp mem]
      refine ⟨fun allBlank => filled ?_, Text.trim_trim line⟩
      exact Text.trim_eq_empty_iff.mp ((Text.trim_trim line).symm.trans (Text.trim_eq_empty_iff.mpr allBlank))

/-- **A line that is run keeps the terminal attuned**; when it is not blank, the arrows before it are void. -/
theorem Attuned.runLine (attuned : terminal.Attuned earlier arrows) {line : String}
    (returned : (terminal.session.handle terminal.now line).2 = false) :
    (terminal.runLine line).1.Attuned earlier (if Text.AllBlank line then arrows else []) := by
  have subscribers := (terminal.session.logs_perform (.process terminal.now line)).2.1
  have session := session_runLine returned
  have history := terminal.history_runLine line
  rw [Session.perform_process] at subscribers
  have listeners : (terminal.runLine line).1.session.subscribers = terminal.session.subscribers := by
    rw [session, subscribers_shownSession, subscribers]
  have told : (terminal.runLine line).1.session.audience.tracker.messages = [] := by
    rw [session, audience_shownSession]
  have cursor : (terminal.runLine line).1.cursor = (terminal.session.process terminal.now line).audience.cursor := by
    rw [Terminal.cursor, session, audience_shownSession]
  by_cases blank : Text.AllBlank line
  · rw [Session.process_of_blank (tokenize_trim_eq_none.mpr blank)] at cursor
    rw [Session.Event.noted, if_pos blank, List.append_nil] at history
    rw [if_pos blank]
    exact attuned.of_same listeners told history cursor
  · rw [cursor_process attuned.listeners blank returned] at cursor
    rw [Session.Event.noted, if_neg blank] at history
    rw [if_neg blank]
    exact attuned.of_recorded blank listeners told history cursor

/-! ## Steps and runs -/

/-- A step that submits a line runs it. -/
theorem step_eq_runLine {received : Received} {line : String} (submits : terminal.submitted? received = some line) :
    terminal.step received = terminal.runLine line := by
  cases received with
  | malformed => cases submits
  | line text =>
    rw [step_of_closed (closed_of_submitted submits)]
    exact stepPrompt_of_submitted submits

/-- A line of arrows moves the cursor. -/
theorem step_of_arrows (closed : terminal.editor = none) {text : String} {more : List Arrow}
    (read : Arrow.parse? text = some more) :
    terminal.step (.line text) = (terminal.applyArrows more, "\n", .running) := by
  rw [step_of_closed closed, stepPrompt, read]

/-- The cursor stands where the arrows lead then. -/
theorem Attuned.applyArrows (attuned : terminal.Attuned earlier arrows) (more : List Arrow) :
    (terminal.applyArrows more).Attuned earlier (arrows ++ more) ∧
      (terminal.applyArrows more).cursor.entries = terminal.cursor.entries := by
  obtain ⟨entries, position⟩ := terminal.cursor.moved_spec more
  have cursor : (terminal.applyArrows more).cursor = terminal.cursor.moved more := rfl
  refine ⟨⟨attuned.listeners, ?_, ?_, attuned.told, ?_⟩, entries⟩
  · rw [cursor, entries]
    exact attuned.history
  · rw [cursor, entries, position, attuned.position, Arrow.place, Arrow.place, List.foldl_append]
  · rw [cursor, entries]
    exact attuned.entries

/-- The time has no bearing on the arrows. -/
theorem Attuned.tick (attuned : terminal.Attuned earlier arrows) : terminal.tick.Attuned earlier arrows :=
  attuned.of_same rfl attuned.told rfl rfl

/-- **Each step that takes more lines keeps the terminal attuned** to the arrows that count. -/
theorem Attuned.step (attuned : terminal.Attuned earlier arrows) {received : Received}
    (runs : (terminal.step received).2.2 = .running) :
    (terminal.step received).1.Attuned earlier (terminal.arrowsAfter arrows received) := by
  rw [arrowsAfter]
  cases submits : terminal.submitted? received with
  | some line =>
    rw [step_eq_runLine submits] at runs ⊢
    cases broke : (terminal.session.handle terminal.now line).2 with
    | true =>
      rw [runLine_of_broke broke] at runs
      cases runs
    | false => exact attuned.runLine broke
  | none =>
    dsimp only
    cases opened : terminal.editor with
    | some editor =>
      have none : terminal.arrowsRead received = [] := by
        cases received <;> simp [arrowsRead, opened]
      rw [none, List.append_nil, step_of_open opened]
      unfold stepEditor
      dsimp only
      split <;> exact attuned.of_same rfl attuned.told rfl rfl
    | none =>
      cases received with
      | malformed =>
        rw [step_malformed opened, arrowsRead, List.append_nil]
        exact attuned
      | line text =>
        cases read : Arrow.parse? text with
        | none =>
          obtain ⟨line, submitted⟩ := exists_submitted opened read
          rw [submits] at submitted
          cases submitted
        | some more =>
          have readHere : terminal.arrowsRead (.line text) = more := by simp [arrowsRead, opened, read]
          rw [step_of_arrows opened read, readHere]
          exact (attuned.applyArrows more).1

/-- **A run keeps the terminal attuned.** -/
theorem Attuned.advance {reached : Terminal} {taken : List Received} (attuned : terminal.Attuned earlier arrows)
    (advanced : terminal.advance taken = some reached) :
    reached.Attuned earlier (terminal.arrowsSince arrows taken) := by
  induction taken generalizing terminal arrows with
  | nil =>
    cases advanced
    exact attuned
  | cons received rest ih =>
    rw [Terminal.advance] at advanced
    split at advanced
    · next runs => exact ih (attuned.step runs).tick advanced
    · cases advanced

/-- A terminal over a session without listeners is attuned to no arrows. -/
theorem attuned_start {session : Session Listener} (unheard : session.audience = Listener.start)
    (alone : session.subscribers = []) (hostname prompt : String) (now : Moment) (lags : Nat → Nat) :
    (start session hostname prompt now lags).Attuned session.history [] := by
  have cursor : (start session hostname prompt now lags).cursor = Recall.empty := congrArg Listener.cursor unheard
  refine ⟨?_, ?_, ?_, congrArg (fun told : Listener => told.tracker.messages) unheard, ?_⟩
  · simp only [start, Session.subscribe, alone]
    rfl
  · rw [cursor]
    exact (List.append_nil _).symm
  · rw [cursor]
    rfl
  · rw [cursor]
    exact nofun

/-! ## What a blank line runs -/

/-- The line at the place of the arrows is recalled, and none is when that is behind the last entry. -/
theorem Attuned.recalled_applyArrows (attuned : terminal.Attuned earlier arrows) (more : List Arrow) :
    (terminal.applyArrows more).recalled =
      terminal.cursor.entries[Arrow.place terminal.cursor.entries.length (arrows ++ more)]? := by
  obtain ⟨after, entries⟩ := attuned.applyArrows more
  have position := after.position
  have recalled : (terminal.applyArrows more).recalled =
      (terminal.applyArrows more).cursor.current?.filter (· ≠ "") := rfl
  rw [entries] at position
  rw [recalled, Recall.current?, entries, position]
  generalize Arrow.place terminal.cursor.entries.length (arrows ++ more) = place
  by_cases inside : place < terminal.cursor.entries.length
  · have filled : terminal.cursor.entries ≠ [] := fun none => by simp [none] at inside
    have notEmpty : terminal.cursor.entries[place] ≠ "" := by
      intro empty
      obtain ⟨notBlank, -⟩ := attuned.entries _ (List.getElem_mem inside)
      rw [empty] at notBlank
      exact notBlank (by decide)
    simp [filled, inside, notEmpty]
  · have behind : terminal.cursor.entries[place]? = none := List.getElem?_eq_none (Nat.not_lt.mp inside)
    rw [behind, List.getD_eq_getElem?_getD, behind]
    split <;> rfl

/-- A blank line submits what is recalled, if something is. -/
theorem submitted?_of_blank (closed : terminal.editor = none) {blank : String} (isBlank : Text.AllBlank blank) :
    terminal.submitted? (.line blank) = some (terminal.recalled.getD blank) := by
  rw [submitted?, closed, Arrow.parse?_of_blank isBlank, lineFor, Text.trim_eq_empty_iff.mpr isBlank]
  cases terminal.recalled <;> rfl

/-- Any other line that is not one of arrows is submitted as it was typed, whatever is recalled. -/
theorem submitted?_of_filled (closed : terminal.editor = none) {text : String} (typed : Arrow.parse? text = none)
    (filled : ¬ Text.AllBlank text) : terminal.submitted? (.line text) = some text := by
  have kept : Text.trim text ≠ "" := fun empty => filled (Text.trim_eq_empty_iff.mp empty)
  rw [submitted?, closed, typed, lineFor]
  cases terminal.recalled with
  | none => rfl
  | some earlier => simp [kept]

/-- A blank line runs the entry that is recalled, and notes it again. -/
theorem Attuned.step_of_recalled (attuned : terminal.Attuned earlier arrows) (closed : terminal.editor = none)
    {blank entry : String} (isBlank : Text.AllBlank blank) (recalled : terminal.recalled = some entry)
    (mem : entry ∈ terminal.cursor.entries) :
    terminal.step (.line blank) = terminal.runLine entry ∧
      (terminal.step (.line blank)).1.session.history = terminal.session.history ++ [entry] := by
  have submits := submitted?_of_blank closed isBlank
  rw [recalled, Option.getD_some] at submits
  obtain ⟨filled, trimmed⟩ := attuned.entries entry mem
  have ran := step_eq_runLine submits
  rw [ran, history_runLine, Session.Event.noted, if_neg filled, trimmed]
  exact ⟨rfl, rfl⟩

/-- **A blank line does nothing** when nothing is recalled. -/
theorem Attuned.step_of_unrecalled (attuned : terminal.Attuned earlier arrows) (closed : terminal.editor = none)
    {blank : String} (isBlank : Text.AllBlank blank) (unrecalled : terminal.recalled = none) :
    terminal.step (.line blank) = terminal.runLine blank ∧
      terminal.session.process terminal.now blank = terminal.session ∧
      (terminal.step (.line blank)).1.session.history = terminal.session.history ∧
      (terminal.Settled → (terminal.step (.line blank)).1 = terminal ∧ (terminal.step (.line blank)).2.1 = "") := by
  have submits := submitted?_of_blank closed isBlank
  rw [unrecalled] at submits
  have ran : terminal.step (.line blank) = terminal.runLine blank := step_eq_runLine submits
  rw [ran]
  refine ⟨rfl, Session.process_of_blank (tokenize_trim_eq_none.mpr isBlank) _, ?_, fun settled => ?_⟩
  · rw [history_runLine, Session.Event.noted, if_pos isBlank, List.append_nil]
  · obtain ⟨same, shown⟩ := settled.runLine_of_blank attuned.told isBlank
    refine ⟨same.trans ?_, shown⟩
    rw [forgotten, ← unrecalled]

/-- **Arrow recall runs the right line.** Take a terminal over a session that nobody listens to yet, with any commands
and any files, and any lines that it takes. When its prompt has been reached, the history has gained the entries of the
cursor; when the session was new, they are all of it. Let then a line of arrows be read, and directly after it a blank
line. The arrows that count lead to a place among the entries or behind them. When it is the place of an entry, the
blank line runs that entry, which is noted again. When it is the one behind them, the blank line runs itself, by which
nothing is processed; a terminal that was settled at first is just as it was.

A line that is neither blank nor of arrows is run as it was typed. And wherever arrows have moved the cursor, it stands
at one of the places, and one step up from there at an entry if there is one. -/
theorem recall_runs_entry {session : Session Listener} (unheard : session.audience = Listener.start)
    (alone : session.subscribers = []) {hostname prompt : String} {now : Moment} {lags : Nat → Nat}
    {taken : List Received} {reached : Terminal}
    (advanced : (start session hostname prompt now lags).advance taken = some reached)
    (closed : reached.editor = none) :
    let terminal := start session hostname prompt now lags
    let entries := reached.cursor.entries
    let arrows := terminal.arrowsSince [] taken
    reached.session.history = session.history ++ entries ∧
      (∀ text more blank, Arrow.parse? text = some more → Text.AllBlank blank →
        let recalling := (reached.step (.line text)).1.tick
        let place := Arrow.place entries.length (arrows ++ more)
        (reached.step (.line text)).2 = ("\n", .running) ∧ place ≤ entries.length ∧
          (∀ inside : place < entries.length,
            recalling.step (.line blank) = recalling.runLine entries[place] ∧
              (recalling.step (.line blank)).1.session.history = reached.session.history ++ [entries[place]]) ∧
          (place = entries.length →
            recalling.step (.line blank) = recalling.runLine blank ∧
              recalling.session.process recalling.now blank = recalling.session ∧
              (recalling.step (.line blank)).1.session.history = reached.session.history ∧
              (terminal.Settled → (recalling.step (.line blank)).1 = recalling ∧
                (recalling.step (.line blank)).2.1 = ""))) ∧
      (∀ text, Arrow.parse? text = none → ¬ Text.AllBlank text →
        reached.step (.line text) = reached.runLine text ∧
          (reached.step (.line text)).1.session.history = reached.session.history ++ [Text.trim text]) ∧
      ∀ moves, (reached.cursor.moved moves).entries = entries ∧ (reached.cursor.moved moves).position ≤ entries.length ∧
        (entries ≠ [] → (reached.cursor.moved moves).up.position < entries.length) := by
  intro terminal entries arrows
  have attuned : reached.Attuned session.history arrows :=
    (attuned_start unheard alone hostname prompt now lags).advance advanced
  refine ⟨attuned.history, ?arrows, ?typed, ?within⟩
  case typed =>
    intro text typed filled
    have ran := step_eq_runLine (submitted?_of_filled closed typed filled)
    rw [ran, history_runLine, Session.Event.noted, if_neg filled]
    exact ⟨rfl, rfl⟩
  case within =>
    intro moves
    obtain ⟨same, -⟩ := reached.cursor.moved_spec moves
    have le := (reached.cursor.moved moves).position_le
    have up := (reached.cursor.moved moves).up_lt
    rw [same] at le up
    exact ⟨same, le, up⟩
  case arrows =>
    intro text more blank read isBlank recalling place
    have stepped := step_of_arrows closed read
    have same : recalling = (reached.applyArrows more).tick := congrArg (fun on => on.1.tick) stepped
    obtain ⟨attunedThere, entriesThere⟩ := attuned.applyArrows more
    replace attunedThere := attunedThere.tick
    have recalled : (reached.applyArrows more).tick.recalled = entries[place]? := attuned.recalled_applyArrows more
    have closedThere : (reached.applyArrows more).tick.editor = none := closed
    rw [same]
    refine ⟨congrArg Prod.snd stepped, Arrow.place_le _ _, fun inside => ?_, fun behind => ?_⟩
    · rw [List.getElem?_eq_getElem inside] at recalled
      exact attunedThere.step_of_recalled closedThere isBlank recalled (entriesThere ▸ List.getElem_mem inside)
    · rw [List.getElem?_eq_none (Nat.le_of_eq behind.symm)] at recalled
      obtain ⟨ran, unprocessed, history, unchanged⟩ := attunedThere.step_of_unrecalled closedThere isBlank recalled
      refine ⟨ran, unprocessed, history, fun settled => unchanged ?_⟩
      exact (settled.advance advanced).of_sameDisplay ⟨rfl, rfl, rfl, rfl, rfl⟩

end Terminal

/-! ## Arrows on several lines -/

namespace Rehearsal

/-- Three lines, arrows that lead too far up, down again and on the next line up, an editor that is sent arrows, and a
blank line. -/
def recalls : List Received :=
  [.line "echo a", .line " nope b", .line "nano f", .line "\x1b[A", .line ":q", .line "",
    .line "\x1b[A\x1bOA\x1b[A\x1b[A", .line "\x1b[B"]

/-- The arrows of both lines count and those in the editor do not, so a blank line runs the second entry after one more
step down and one up. After two steps down it runs nothing. -/
theorem recall_runs_entry_of_three :
    ∃ reached, terminal.advance recalls = some reached ∧ reached.editor = none ∧
      terminal.arrowsSince [] recalls = [.up, .up, .up, .up, .down] ∧
      reached.session.history = ["echo a", "nope b", "nano f"] ∧
      ((reached.step (.line "\x1b[B\x1b[A")).1.tick.step (.line " \u3000")).1.session.history =
        ["echo a", "nope b", "nano f", "nope b"] ∧
      ((reached.step (.line "\x1b[B\x1b[B")).1.tick.step (.line "")).1 =
        (reached.step (.line "\x1b[B\x1b[B")).1.tick ∧
      reached.step (.line "echo c") = reached.runLine "echo c" := by
  obtain ⟨reached, advanced⟩ := Option.isSome_iff_exists.mp
    (by decide +kernel : (terminal.advance recalls).isSome = true)
  have facts : (terminal.advance recalls).map (fun reached => (reached.editor.isNone, reached.session.history)) =
      some (true, ["echo a", "nope b", "nano f"]) := by
    decide +kernel
  rw [advanced, Option.map_some, Option.some.injEq, Prod.mk.injEq, Option.isNone_iff_eq_none] at facts
  obtain ⟨closed, history⟩ := facts
  have since : terminal.arrowsSince [] recalls = [.up, .up, .up, .up, .down] := by decide +kernel
  have settled : terminal.Settled := ⟨rfl, rfl, rfl, rfl⟩
  unfold terminal at advanced since settled
  obtain ⟨gained, arrows, typed, -⟩ := Terminal.recall_runs_entry rfl rfl advanced closed
  have entries : reached.cursor.entries = ["echo a", "nope b", "nano f"] := gained.symm.trans history
  simp only [since, entries] at arrows
  obtain ⟨-, -, runs, -⟩ := arrows "\x1b[B\x1b[A" [.down, .up] " \u3000" (by decide) (by decide)
  obtain ⟨-, -, -, nothing⟩ := arrows "\x1b[B\x1b[B" [.down, .down] "" (by decide) (by decide)
  obtain ⟨-, ran⟩ := runs (by decide)
  obtain ⟨-, -, -, unchanged⟩ := nothing (by decide)
  refine ⟨reached, advanced, closed, since, history, ?_, (unchanged settled).1,
    (typed "echo c" (by decide) (by decide +kernel)).1⟩
  rw [ran, history]
  rfl

end Rehearsal

end ConfinedShell
