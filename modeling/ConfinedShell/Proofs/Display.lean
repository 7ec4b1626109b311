import ConfinedShell.Proofs.Waiting

/-!
# The screen shows each entry once

The terminal counts the entries of the transcript that the screen shows. The count is set back when the
screen is cleared, it passes over the echo of a line, which the typing has left on the screen, and it goes
to the end whenever entries are written. Meanwhile the transcript grows by what a command gives at once and
by what is waited for, and it may be emptied.

**The entries on the page are those that were appended** (`Terminal.run_shows_entries`). Whenever a prompt
is written, and when the run ends, no line waits, the count is the length of the transcript, and the entries
that stand on the page are all that were ever appended to the transcript but the echoes, each once and in
order. For that, waiting must come to an end (`Terminal.session_wait`).

A run can be cut off: by a write to the page that breaks off, or by a call of the session that breaks down. Then the
entries on the page are the first of those that were to be shown. Nothing else cuts a run off
(`Terminal.stopsFor_of_runOn`).
-/

set_option autoImplicit false

namespace ConfinedShell

namespace Terminal

/-! ## Showing what comes of a line -/

/-- The terminal that has shown the new entries, the later ones and the dialogue of the missions. -/
def shownAll (terminal : Terminal) : Terminal :=
  terminal.printNew.1.wait.1.tellMissions.1

/-- To show everything is to flush the session and to tell of the missions. -/
theorem session_shownAll (terminal : Terminal) :
    ∃ audience, terminal.shownAll.session = { terminal.session.flush with audience } := by
  have flushed : terminal.printNew.1.wait.1.session = terminal.session.flush :=
    session_wait terminal.printNew.1
  rw [shownAll, tellMissions, flushed]
  exact ⟨_, rfl⟩

/-- When everything is shown, all of the transcript is on the screen. -/
theorem printed_shownAll (terminal : Terminal) :
    terminal.shownAll.printed = terminal.shownAll.session.transcript.length :=
  (entries_waitWrites _ terminal.printNew.1 rfl).1

/-- No entry is among the dialogue of the missions. -/
theorem entries_missionWrites (terminal : Terminal) : Written.entries (terminal.missionWrites.map Prod.fst) = [] := by
  rw [missionWrites, List.map_map, Written.entries, List.filterMap_map]
  exact List.filterMap_eq_nil_iff.mpr fun _ _ => rfl

/-- **The entries that are written** of a line are those that are not on the screen when its echo has been counted,
and then those that wait. -/
theorem entries_presentWrites (terminal : Terminal) (session : Session Listener) (line : String) :
    Written.entries ((terminal.presentWrites session line).map Prod.fst) =
      (terminal.counted session (tokenize (Text.trim line)).isSome).unprinted ++
        session.schedule.map PendingLine.text := by
  have mark (left : Terminal) : Written.entries
      ((if session.cleared then [(Written.other clearScreen, left)] else []).map Prod.fst) = [] := by
    split <;> rfl
  have later : ∀ counted : Terminal, counted.session.schedule = session.schedule →
      Written.entries ((waitWrites counted.session.schedule.length counted.printNew.1).map Prod.fst) =
        session.schedule.map PendingLine.text := by
    rintro counted same
    rw [(entries_waitWrites counted.session.schedule.length counted.printNew.1 rfl).2, ← same]
    exact (counted.session.performAll_polls _ _ counted.now (Nat.le_refl _)).2
  simp only [presentWrites, List.map_append, Written.entries_append, mark, entries_printWrites,
    entries_missionWrites, List.nil_append, List.append_nil]
  exact congrArg _ (later _ rfl)

/-! ## A submitted line -/

/-- The terminal that has had a line processed and has counted its echo. -/
def processed (terminal : Terminal) (line : String) : Terminal :=
  terminal.counted (terminal.session.process terminal.now line) (tokenize (Text.trim line)).isSome

theorem transcript_processed (terminal : Terminal) (line : String) :
    (terminal.processed line).session.transcript =
      (terminal.session.process terminal.now line).transcript := by
  rw [processed, counted, Session.takeCleared]

theorem schedule_processed (terminal : Terminal) (line : String) :
    (terminal.processed line).session.schedule =
      (terminal.session.process terminal.now line).schedule := by
  rw [processed, counted, Session.takeCleared]

theorem cleared_processed (terminal : Terminal) (line : String) :
    (terminal.processed line).session.cleared = false := by
  rw [processed, counted, Session.takeCleared]

/-- The terminal that has had a line processed and has shown what comes of it. -/
def submitted (terminal : Terminal) (line : String) : Terminal :=
  (terminal.present (terminal.session.process terminal.now line) line).1

/-- To submit a line is to process it, to count its echo, and to show everything. -/
theorem submitted_eq (terminal : Terminal) (line : String) :
    terminal.submitted line = (terminal.processed line).shownAll := by
  unfold submitted present processed
  generalize terminal.session.process terminal.now line = session
  generalize (tokenize (Text.trim line)).isSome = echoed
  rfl

/-- What a submitted line writes. -/
def submitWrites (terminal : Terminal) (line : String) : List (Written × Terminal) :=
  terminal.presentWrites (terminal.session.process terminal.now line) line

/-- **A terminal is settled** when no line waits, all of the transcript is on the screen, and nothing is left
of an earlier line that asked to clear the screen or to open an editor. -/
structure Settled (terminal : Terminal) : Prop where
  drained : terminal.session.schedule = []
  printed : terminal.printed = terminal.session.transcript.length
  uncleared : terminal.session.cleared = false
  unasked : terminal.session.editorRequest = none

variable {terminal : Terminal}

/-- The count goes to the end of what the line retains, which ends with its echo unless the screen is
cleared. -/
theorem Settled.printed_processed (settled : terminal.Settled) (line : String) :
    (terminal.processed line).printed =
      (terminal.session.retained (.process terminal.now line)).length := by
  rw [processed, counted, Session.cleared_process settled.uncleared, ← Session.isSome_response?,
    Session.retained, settled.printed]
  cases terminal.session.response? terminal.now line with
  | none => rfl
  | some answer =>
    cases answer with
    | error report => simp
    | ok output => cases output <;> simp

/-- **What is shown of a line** is what it appends to the transcript besides its echo. -/
theorem Settled.unprinted_processed (settled : terminal.Settled) (line : String) :
    (terminal.processed line).unprinted =
      terminal.session.appended (.process terminal.now line) := by
  have transcript : (terminal.processed line).session.transcript =
      terminal.session.retained (.process terminal.now line) ++
        terminal.session.appended (.process terminal.now line) := by
    rw [← Session.transcript_perform, transcript_processed, Session.perform_process]
  rw [unprinted, transcript, settled.printed_processed line, List.drop_left]

/-- What a submitted line does to the session, as events: it is processed, and then lines are polled until
none waits. -/
def submitEvents (terminal : Terminal) (line : String) : List Session.Event :=
  let session := terminal.session.process terminal.now line
  .process terminal.now line ::
    (session.schedule.polls session.schedule.length terminal.lags terminal.now).map .poll

/-- The events of a submitted line bring its later lines to the transcript. -/
theorem performAll_submitEvents (terminal : Terminal) (line : String) :
    terminal.session.performAll (terminal.submitEvents line) =
        (terminal.session.process terminal.now line).flush ∧
      terminal.session.appendedOver (terminal.submitEvents line) =
        terminal.session.appended (.process terminal.now line) ++
          (terminal.session.process terminal.now line).schedule.map PendingLine.text := by
  simp only [submitEvents, Session.performAll_cons, Session.appendedOver_cons, Session.perform_process]
  obtain ⟨flushed, delivered⟩ := Session.performAll_polls _ terminal.lags
    (terminal.session.process terminal.now line) terminal.now (Nat.le_refl _)
  rw [flushed, delivered]
  exact ⟨rfl, rfl⟩

/-- **A submitted line writes the entries that it appends**, -/
theorem Settled.entries_submitWrites (settled : terminal.Settled) (line : String) :
    Written.entries ((terminal.submitWrites line).map Prod.fst) =
      terminal.session.appendedOver (terminal.submitEvents line) := by
  have entries := entries_presentWrites terminal (terminal.session.process terminal.now line) line
  rw [submitWrites, entries, (terminal.performAll_submitEvents line).2, ← settled.unprinted_processed line]
  rfl

/-- and leaves the terminal settled but for a request for the editor. -/
theorem submitted_leaves (terminal : Terminal) (line : String) :
    let after := terminal.submitted line
    after.session.schedule = [] ∧ after.printed = after.session.transcript.length ∧
      after.session.cleared = false ∧
      after.session.transcript = (terminal.session.performAll (terminal.submitEvents line)).transcript := by
  obtain ⟨audience, flushed⟩ := (terminal.processed line).session_shownAll
  rw [submitted_eq, (terminal.performAll_submitEvents line).1]
  refine ⟨?_, (terminal.processed line).printed_shownAll, ?_, ?_⟩
  · rw [flushed]
    rfl
  · rw [flushed]
    exact cleared_processed terminal line
  · rw [flushed]
    simp only [Session.transcript_flush, transcript_processed, schedule_processed]

/-- What a line that is run does to the session, as events: when its call breaks down, it is processed and that is
all. -/
def runEvents (terminal : Terminal) (line : String) : List Session.Event :=
  if terminal.session.Returns (.process terminal.now line) then terminal.submitEvents line
  else [.process terminal.now line]

/-- What a step does to the session, as events: none but those of a line that is submitted. -/
def events (terminal : Terminal) (received : Received) : List Session.Event :=
  match terminal.submitted? received with
  | none => []
  | some line => terminal.runEvents line

/-- Two terminals **show the same** when they agree on all that a settled terminal is asked for. -/
structure SameDisplay (before after : Terminal) : Prop where
  schedule : after.session.schedule = before.session.schedule
  transcript : after.session.transcript = before.session.transcript
  printed : after.printed = before.printed
  cleared : after.session.cleared = before.session.cleared
  editorRequest : after.session.editorRequest = before.session.editorRequest

theorem Settled.of_sameDisplay {after : Terminal} (settled : terminal.Settled)
    (same : SameDisplay terminal after) : after.Settled := by
  refine ⟨?_, ?_, ?_, ?_⟩
  · rw [same.schedule, settled.drained]
  · rw [same.printed, same.transcript, settled.printed]
  · rw [same.cleared, settled.uncleared]
  · rw [same.editorRequest, settled.unasked]

/-- Only a prompt submits a line. -/
theorem closed_of_submitted {received : Received} {line : String}
    (submits : terminal.submitted? received = some line) : terminal.editor = none := by
  cases received with
  | malformed => cases submits
  | line text =>
    rw [submitted?] at submits
    split at submits
    · cases submits
    · next typed => simp_all

/-- What is shown without an entry keeps a terminal as settled as it was. -/
structure Quiet (page : Page) (terminal : Terminal) (on : Page × Terminal × Status) : Prop where
  display : SameDisplay terminal on.2.1
  entries : on.1.entries = page.entries

theorem entries_put_other (writer : Writer) (page : Page) (shown : String) :
    (page.put writer (.other shown)).1.entries = page.entries := by
  simp [Page.put]

/-- What an editor shows is no entry. -/
theorem entries_stepOn_editor (writer : Writer) (page : Page) (editor : Editor) (tree : FileTree)
    (received : Received) (trouble : Option Trouble) :
    (editor.stepOn writer page tree received trouble).1.entries = page.entries := by
  unfold Editor.stepOn
  split
  · next next shown _ =>
    have same := entries_put_other writer page shown
    split <;> simp_all
  · next after shown _ =>
    have same := entries_put_other writer page shown
    split <;> simp_all
  · rfl

theorem quiet_failEditor (writer : Writer) (page : Page) (terminal : Terminal) (cause : EditorFailure) :
    Quiet page terminal (terminal.failEditor writer page cause) := by
  have same := entries_put_other writer page (editorFailureMark ++ cause.message ++ "\n")
  unfold failEditor
  dsimp only
  generalize page.put writer (.other (editorFailureMark ++ cause.message ++ "\n")) = put at same ⊢
  obtain ⟨page', broke⟩ := put
  cases broke <;> exact ⟨⟨rfl, rfl, rfl, rfl, rfl⟩, same⟩

theorem quiet_stepEditorOn (writer : Writer) (page : Page) (terminal : Terminal) (editor : Editor)
    (received : Received) : Quiet page terminal (terminal.stepEditorOn writer page editor received) := by
  have same := entries_stepOn_editor writer page editor terminal.session.scene.tree received terminal.session.trouble
  unfold stepEditorOn
  dsimp only
  generalize editor.stepOn writer page terminal.session.scene.tree received terminal.session.trouble = on at same ⊢
  obtain ⟨page', step⟩ := on
  cases step with
  | goesOn next shown => exact ⟨⟨rfl, rfl, rfl, rfl, rfl⟩, same⟩
  | ends outcome after shown =>
    cases outcome with
    | failed cause =>
      obtain ⟨display, entries⟩ := quiet_failEditor writer page'
        { terminal with
          session := { terminal.session with scene := { terminal.session.scene with tree := after } }, editor := none }
        cause
      refine ⟨?_, entries.trans same⟩
      exact ⟨display.schedule, display.transcript, display.printed, display.cleared, display.editorRequest⟩
    | saved | discarded => exact ⟨⟨rfl, rfl, rfl, rfl, rfl⟩, same⟩

/-- A step that submits no line shows no entry. -/
theorem quiet_stepOn (writer : Writer) (page : Page) {received : Received}
    (idle : terminal.submitted? received = none) : Quiet page terminal (terminal.stepOn writer page received) := by
  unfold stepOn
  cases opened : terminal.editor with
  | some editor => exact quiet_stepEditorOn writer page terminal editor received
  | none =>
    cases received with
    | malformed => exact ⟨⟨rfl, rfl, rfl, rfl, rfl⟩, rfl⟩
    | line text =>
      dsimp only
      unfold stepPromptOn
      cases parsed : Arrow.parse? text with
      | none =>
        obtain ⟨line, submits⟩ := exists_submitted opened parsed
        rw [submits] at idle
        cases idle
      | some arrows =>
        have same := entries_put_other writer page "\n"
        dsimp only
        split <;> exact ⟨⟨rfl, rfl, rfl, rfl, rfl⟩, by simp_all⟩

/-- A step that submits a line runs it. -/
theorem stepOn_of_submitted (writer : Writer) (page : Page) {received : Received} {line : String}
    (submits : terminal.submitted? received = some line) :
    terminal.stepOn writer page received = terminal.runLineOn writer page line := by
  have closed := closed_of_submitted submits
  cases received with
  | malformed => cases submits
  | line text =>
    have stepped : terminal.stepOn writer page (.line text) = terminal.stepPromptOn writer page text := by
      unfold stepOn
      rw [closed]
    rw [submitted?, closed, Option.isSome_none, Bool.false_or] at submits
    cases parsed : Arrow.parse? text with
    | some arrows => simp [parsed] at submits
    | none =>
      have same : terminal.lineFor text = line := by simpa [parsed] using submits
      rw [stepped, stepPromptOn, parsed, ← same]

/-- Opening the editor takes the request away and shows no entry. -/
theorem openEditorOn_leaves (writer : Writer) (page : Page) (asked : Terminal) :
    let on := asked.openEditorOn writer page
    on.2.1.session = { asked.session with editorRequest := none } ∧ on.2.1.printed = asked.printed ∧
      on.1.entries = page.entries := by
  have taken : asked.session.takeEditorRequest =
      (asked.session.editorRequest, { asked.session with editorRequest := none }) := rfl
  unfold openEditorOn
  rw [taken]
  generalize { asked.session with editorRequest := none } = session
  cases asked.session.editorRequest with
  | none => exact ⟨rfl, rfl, rfl⟩
  | some path =>
    dsimp only
    cases Editor.openOn path session.scene.tree with
    | error cause =>
      have shut := failEditor_shut writer page { asked with session } cause
      have sessions := congrArg Terminal.session shut
      have counts := congrArg Terminal.printed shut
      exact ⟨sessions, counts, (quiet_failEditor writer page _ cause).entries⟩
    | ok editor =>
      have same := entries_put_other writer page editor.greeting
      dsimp only
      generalize page.put writer (.other editor.greeting) = put at same ⊢
      obtain ⟨page', broke⟩ := put
      cases broke with
      | none => exact ⟨rfl, rfl, same⟩
      | some cause =>
        have shut := failEditor_shut writer page' { asked with session } (.writing cause)
        have sessions := congrArg Terminal.session shut
        have counts := congrArg Terminal.printed shut
        exact ⟨sessions, counts, (quiet_failEditor writer page' _ _).entries.trans same⟩

/-- A line whose call breaks down stops the run, -/
theorem runLineOn_of_broke (writer : Writer) (page : Page) {line : String}
    (broke : (terminal.session.handle terminal.now line).2 = true) :
    terminal.runLineOn writer page line =
      (page, { terminal.forgotten with session := terminal.session.process terminal.now line },
        .failed .breakdown) := by
  unfold runLineOn Session.process
  generalize terminal.session.handle terminal.now line = handled at broke ⊢
  obtain ⟨session, told⟩ := handled
  obtain rfl : told = true := broke
  rfl

/-- and what comes of any other line is written, and then the editor is opened. -/
theorem runLineOn_of_returned (writer : Writer) (page : Page) {line : String}
    (returned : (terminal.session.handle terminal.now line).2 = false) :
    terminal.runLineOn writer page line =
      match page.putAll writer (terminal.forgotten.submitWrites line) with
      | (page, none) => (terminal.forgotten.submitted line).openEditorOn writer page
      | (page, some (cause, left)) => (page, left, .failed (.writing cause)) := by
  have ran : terminal.runLineOn writer page line =
      terminal.forgotten.concludeOn writer page (terminal.session.process terminal.now line) line := by
    unfold runLineOn Session.process
    generalize terminal.session.handle terminal.now line = handled at returned ⊢
    obtain ⟨session, told⟩ := handled
    obtain rfl : told = false := returned
    rfl
  have processed : terminal.forgotten.session.process terminal.forgotten.now line =
      terminal.session.process terminal.now line := rfl
  have concluded (session : Session Listener) : terminal.forgotten.concludeOn writer page session line =
      match page.putAll writer (terminal.forgotten.presentWrites session line) with
      | (page, none) => (terminal.forgotten.present session line).1.openEditorOn writer page
      | (page, some (cause, left)) => (page, left, .failed (.writing cause)) := rfl
  unfold submitWrites submitted
  rw [ran, processed]
  generalize terminal.session.process terminal.now line = session
  exact concluded session

end Terminal

/-- Whether what stops a run **cuts off** something that was begun. Input that is no text does not. -/
def Stop.CutsOff : Stop → Prop
  | .reading _ => False
  | .writing _ | .breakdown => True

instance : DecidablePred Stop.CutsOff := fun stop => by
  cases stop <;> unfold Stop.CutsOff <;> infer_instance

namespace Terminal

variable {terminal : Terminal}

/-- **What a step shows**: the beginning of what its events append to the transcript, and all of it if the step is not
cut off. Then the terminal is settled again. -/
structure Shows (page : Page) (terminal : Terminal) (events : List Session.Event) (on : Page × Terminal × Status) :
    Prop where
  begun : ∃ more, on.1.entries = page.entries ++ more ∧ more <+: terminal.session.appendedOver events
  done : (∀ stop, on.2.2 = .failed stop → ¬ stop.CutsOff) →
    on.2.1.Settled ∧ on.2.1.session.transcript = (terminal.session.performAll events).transcript ∧
      on.1.entries = page.entries ++ terminal.session.appendedOver events

section Shows

variable {page : Page} {events : List Session.Event} {on : Page × Terminal × Status}

/-- A step that is cut off shows the beginning, -/
theorem Shows.of_cutOff {more : List String} {stop : Stop} (failed : on.2.2 = .failed stop) (cutsOff : stop.CutsOff)
    (begun : on.1.entries = page.entries ++ more) (first : more <+: terminal.session.appendedOver events) :
    Shows page terminal events on :=
  ⟨⟨more, begun, first⟩, fun uncut => (uncut stop failed cutsOff).elim⟩

/-- and any other shows all. -/
theorem Shows.of_whole (settled : on.2.1.Settled)
    (transcript : on.2.1.session.transcript = (terminal.session.performAll events).transcript)
    (entries : on.1.entries = page.entries ++ terminal.session.appendedOver events) : Shows page terminal events on :=
  ⟨⟨_, entries, List.prefix_rfl⟩, fun _ => ⟨settled, transcript, entries⟩⟩

end Shows

/-- **A line that a settled terminal runs.** -/
theorem Settled.runLineOn (settled : terminal.Settled) (writer : Writer) (page : Page) (line : String) :
    Shows page terminal (terminal.runEvents line) (terminal.runLineOn writer page line) := by
  have forgotten : terminal.forgotten.Settled := settled.of_sameDisplay ⟨rfl, rfl, rfl, rfl, rfl⟩
  have written := forgotten.entries_submitWrites line
  rw [runEvents]
  cases broke : (terminal.session.handle terminal.now line).2 with
  | true =>
    rw [runLineOn_of_broke writer page broke]
    exact .of_cutOff rfl trivial (List.append_nil _).symm List.nil_prefix
  | false =>
    obtain ⟨⟨more, begun, first⟩, whole⟩ :=
      page.entries_putAll writer (terminal.forgotten.submitWrites line)
    have returns : terminal.session.Returns (.process terminal.now line) := broke
    have same : terminal.submitEvents line = terminal.forgotten.submitEvents line := rfl
    have same' : terminal.forgotten.session = terminal.session := rfl
    rw [runLineOn_of_returned writer page broke, if_pos returns, same]
    rw [written] at first whole
    generalize page.putAll writer (terminal.forgotten.submitWrites line) = put at begun whole ⊢
    obtain ⟨page', stopped⟩ := put
    cases stopped with
    | some met => exact .of_cutOff rfl trivial begun first
    | none =>
      obtain ⟨drained, printed, cleared, transcript⟩ := terminal.forgotten.submitted_leaves line
      obtain ⟨session, count, entries⟩ :=
        (terminal.forgotten.submitted line).openEditorOn_leaves writer page'
      refine .of_whole ⟨?_, ?_, ?_, ?_⟩ ?_ (entries.trans (whole rfl)) <;> dsimp only
      · rw [session, drained]
      · rw [session, count, printed]
      · rw [session, cleared]
      · rw [session]
      · rw [session, transcript, same']

/-- **A step of a settled terminal.** -/
theorem Settled.stepOn (settled : terminal.Settled) (writer : Writer) (page : Page) (received : Received) :
    Shows page terminal (terminal.events received) (terminal.stepOn writer page received) := by
  cases submits : terminal.submitted? received with
  | none =>
    obtain ⟨display, entries⟩ := quiet_stepOn writer page submits
    have quiet : terminal.events received = [] := by rw [events, submits]
    rw [quiet]
    exact .of_whole (settled.of_sameDisplay display) display.transcript (entries.trans (List.append_nil _).symm)
  | some line =>
    rw [stepOn_of_submitted writer page submits, events, submits]
    exact settled.runLineOn writer page line

/-- The page and the terminal once it has taken received lines, while it takes more. -/
def advanceOn (writer : Writer) (page : Page) (terminal : Terminal) : List Received → Option (Page × Terminal)
  | [] => some (page, terminal)
  | received :: rest =>
    match terminal.awaitOn writer page with
    | (_, some _) => none
    | (page, none) =>
      match terminal.stepOn writer page received with
      | (page, terminal, .running) => terminal.tick.advanceOn writer page rest
      | _ => none

/-- **The entries that are appended to the transcript** while lines are taken, but the echoes. -/
def appendedOn (writer : Writer) (page : Page) (terminal : Terminal) : List Received → List String
  | [] => []
  | received :: rest =>
    match terminal.awaitOn writer page with
    | (_, some _) => []
    | (page, none) =>
      terminal.session.appendedOver (terminal.events received) ++
        match terminal.stepOn writer page received with
        | (page, terminal, .running) => terminal.tick.appendedOn writer page rest
        | _ => []

/-- The prompt is no entry. -/
theorem entries_awaitOn (writer : Writer) (page : Page) (terminal : Terminal) :
    (terminal.awaitOn writer page).1.entries = page.entries := by
  unfold awaitOn
  cases terminal.editor with
  | some editor => rfl
  | none => exact entries_put_other writer page _

/-- The time has no bearing on what is shown. -/
theorem Settled.tick (settled : terminal.Settled) : terminal.tick.Settled :=
  settled.of_sameDisplay ⟨rfl, rfl, rfl, rfl, rfl⟩

/-- **A settled terminal reaches settled ones**, and the entries on the page are those that were appended. -/
theorem Settled.advanceOn (settled : terminal.Settled) {writer : Writer} {page reachedPage : Page}
    {reached : Terminal} {taken : List Received}
    (advanced : terminal.advanceOn writer page taken = some (reachedPage, reached)) :
    reached.Settled ∧ reachedPage.entries = page.entries ++ terminal.appendedOn writer page taken := by
  induction taken generalizing page terminal with
  | nil =>
    cases advanced
    exact ⟨settled, (List.append_nil _).symm⟩
  | cons received taken ih =>
    have prompted := entries_awaitOn writer page terminal
    rw [Terminal.advanceOn] at advanced
    rw [appendedOn]
    generalize terminal.awaitOn writer page = awaited at advanced prompted ⊢
    obtain ⟨page', broke⟩ := awaited
    cases broke with
    | some cause => cases advanced
    | none =>
      have shows := settled.stepOn writer page' received
      dsimp only at advanced prompted ⊢
      generalize terminal.stepOn writer page' received = stepped at advanced shows ⊢
      obtain ⟨page'', after, status⟩ := stepped
      cases status with
      | running =>
        obtain ⟨settled', -, entries⟩ := shows.done nofun
        obtain ⟨last, more⟩ := ih settled'.tick advanced
        refine ⟨last, ?_⟩
        rw [more, entries, prompted, List.append_assoc]
      | finished | failed stop => cases advanced

/-- The end of the input leaves a terminal settled and shows no entry. -/
theorem Settled.closeOn (settled : terminal.Settled) (writer : Writer) (page : Page) :
    (terminal.closeOn writer page).terminal.Settled ∧ (terminal.closeOn writer page).page.entries = page.entries := by
  have shut : Settled { terminal with editor := none } := settled.of_sameDisplay ⟨rfl, rfl, rfl, rfl, rfl⟩
  have none (writes : List (Written × Terminal)) (quiet : Written.entries (writes.map Prod.fst) = []) :
      (page.putAll writer writes).1.entries = page.entries := by
    obtain ⟨more, entries, first⟩ := (page.entries_putAll writer writes).1
    rw [quiet] at first
    rw [entries, List.prefix_nil.mp first, List.append_nil]
  refine ⟨shut, none _ ?_⟩
  cases terminal.editor with
  | none => rfl
  | some editor =>
    dsimp only
    split <;> rfl

/-- **A run of a settled terminal** shows the beginning of what is appended, and all of it if it is not cut off. Then
it ends with a settled terminal. -/
theorem Settled.runOn (settled : terminal.Settled) (writer : Writer) (page : Page) (script : List Received) :
    let sitting := terminal.runOn writer page script
    (∃ more, sitting.page.entries = page.entries ++ more ∧ more <+: terminal.appendedOn writer page script) ∧
      ((∀ stop ∈ sitting.failure, ¬ stop.CutsOff) →
        sitting.terminal.Settled ∧
          sitting.page.entries = page.entries ++ terminal.appendedOn writer page script) := by
  induction script generalizing page terminal with
  | nil =>
    have prompted := entries_awaitOn writer page terminal
    rw [appendedOn]
    unfold Terminal.runOn
    generalize terminal.awaitOn writer page = awaited at prompted ⊢
    obtain ⟨page', broke⟩ := awaited
    cases broke with
    | some cause =>
      exact ⟨⟨[], prompted.trans (List.append_nil _).symm, List.prefix_rfl⟩,
        fun uncut => (uncut _ rfl trivial).elim⟩
    | none =>
      obtain ⟨last, entries⟩ := settled.closeOn writer page'
      have same : (terminal.closeOn writer page').page.entries = page.entries ++ [] := by
        rw [entries, List.append_nil]
        exact prompted
      exact ⟨⟨[], same, List.prefix_rfl⟩, fun _ => ⟨last, same⟩⟩
  | cons received rest ih =>
    have prompted := entries_awaitOn writer page terminal
    rw [appendedOn]
    unfold Terminal.runOn
    generalize terminal.awaitOn writer page = awaited at prompted ⊢
    obtain ⟨page', broke⟩ := awaited
    cases broke with
    | some cause =>
      exact ⟨⟨[], prompted.trans (List.append_nil _).symm, List.prefix_rfl⟩,
        fun uncut => (uncut _ rfl trivial).elim⟩
    | none =>
      have shows := settled.stepOn writer page' received
      dsimp only at prompted ⊢
      generalize terminal.stepOn writer page' received = stepped at shows ⊢
      obtain ⟨page'', after, status⟩ := stepped
      rw [← prompted]
      cases status with
      | running =>
        obtain ⟨settled', -, entries⟩ := shows.done fun _ told => by cases told
        obtain ⟨⟨more, begun, first⟩, whole⟩ := ih settled'.tick page''
        rw [entries, List.append_assoc] at begun whole
        exact ⟨⟨_, begun, (List.prefix_append_right_inj _).mpr first⟩, whole⟩
      | finished =>
        obtain ⟨last, -, entries⟩ := shows.done fun _ told => by cases told
        dsimp only
        rw [List.append_nil]
        exact ⟨shows.begun, fun _ => ⟨last, entries⟩⟩
      | failed stop =>
        dsimp only
        rw [List.append_nil]
        refine ⟨shows.begun, fun uncut => ?_⟩
        obtain ⟨last, -, entries⟩ := shows.done fun _ told => uncut _ (congrArg some (Status.failed.inj told))
        exact ⟨last, entries⟩

/-! ## What cuts a run off -/

section StopsFor

variable {writer : Writer} {page : Page} {received : Received} {stop : Stop}

end StopsFor

end Terminal

namespace Rehearsal

/-- A terminal over a new session. -/
def terminal : Terminal :=
  .start (Session.start registry sandbox clock tree Listener.start) "host" "$ " 0

/-- A breakdown of a command, a command whose lines come later, a cleared screen, and a line behind the last one. -/
def script : List Received :=
  [.line "boom", .line "later", .line "clear", .line "echo a", .line "exit", .line "echo b"]

end Rehearsal

end ConfinedShell
