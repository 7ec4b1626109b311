import ConfinedShell.Proofs.Stepping

/-!
# What stands on a page

A piece stands on a page whole, or its write broke off and a part of its bytes stands there. Pieces that are put one
after the other stand there whole up to the one that breaks off, which is the last (`Page.putAll_cases`).

**With a writer that takes everything** the editor and the terminal do on a page what they do without one
(`Editor.editOn_sound`, `Terminal.runOn_sound`): they leave the same, stop for the same, and the bytes on the page are
those of all that is shown. So what is proved of a run without a page holds of a run on one, for as long as no write
breaks off.
-/

set_option autoImplicit false

namespace ConfinedShell

theorem Text.encode_append (s t : String) : encode (s ++ t) = encode s ++ encode t := by
  simp [encode]

/-! ## Pieces -/

namespace Written

/-- Pieces written one after the other. -/
def screen (pieces : List Written) : String :=
  String.join (pieces.map Written.text)

/-- The entry of the transcript that a piece is. -/
def entry? : Written → Option String
  | entry line => some line
  | other _ => none

/-- The entries of the transcript among pieces. -/
def entries (pieces : List Written) : List String :=
  pieces.filterMap entry?

@[simp] theorem screen_nil : screen [] = "" :=
  rfl

@[simp] theorem screen_cons (piece : Written) (rest : List Written) :
    screen (piece :: rest) = piece.text ++ screen rest :=
  String.join_cons

@[simp] theorem screen_append (first second : List Written) :
    screen (first ++ second) = screen first ++ screen second := by
  rw [screen, List.map_append, String.join_append]
  rfl

@[simp] theorem text_other (shown : String) : (other shown).text = shown :=
  rfl

@[simp] theorem entries_nil : entries [] = [] :=
  rfl

@[simp] theorem entries_append (first second : List Written) :
    entries (first ++ second) = entries first ++ entries second :=
  List.filterMap_append

@[simp] theorem entries_cons_other (shown : String) (rest : List Written) :
    entries (other shown :: rest) = entries rest :=
  rfl

@[simp] theorem entries_map_entry (lines : List String) : entries (lines.map entry) = lines := by
  rw [entries, List.filterMap_map]
  exact List.filterMap_some

end Written

/-! ## Pages -/

/-- A writer **breaks off** for a cause when it does so at some piece. -/
def Writer.Breaks (writer : Writer) (cause : HostError) : Prop :=
  ∃ n met, writer n = some met ∧ met.cause = cause

/-- A writer that breaks off the write of the piece behind `n` others, when one byte of it was taken. -/
def Writer.breaking (n : Nat) : Writer := fun number =>
  if number = n then some ⟨1, .system .noSpace⟩ else none

namespace Page

variable {α : Type}

/-- **The entries of the transcript that stand on a page**, each of them whole. -/
def entries (page : Page) : List String :=
  page.filterMap fun (piece, met) => if met.isNone then piece.entry? else none

@[simp] theorem entries_append (first second : Page) : entries (first ++ second) = entries first ++ entries second :=
  List.filterMap_append

/-- A piece that is no entry adds none. -/
@[simp] theorem entries_other (shown : String) (met : Option Break) : entries [(.other shown, met)] = [] := by
  cases met <;> rfl

/-- No entry stands on a page of which the write broke off. -/
@[simp] theorem entries_broken (piece : Written) (met : Break) : entries [(piece, some met)] = [] :=
  rfl

@[simp] theorem bytes_append (first second : Page) : bytes (first ++ second) = bytes first ++ bytes second :=
  List.flatMap_append

/-- Pieces as they stand on a page whole. -/
def whole (pieces : List Written) : Page :=
  pieces.map fun piece => (piece, none)

@[simp] theorem entries_whole (pieces : List Written) : entries (whole pieces) = Written.entries pieces := by
  rw [entries, whole, List.filterMap_map]
  rfl

@[simp] theorem bytes_whole (pieces : List Written) : bytes (whole pieces) = Text.encode (Written.screen pieces) := by
  induction pieces with
  | nil => rfl
  | cons piece rest ih =>
    rw [Written.screen_cons, Text.encode_append, ← ih]
    rfl

/-- **Pieces stand on the page whole**, all of them or those in front of the one that breaks off. -/
theorem putAll_cases (writer : Writer) (page : Page) (writes : List (Written × α)) :
    page.putAll writer writes = (page ++ whole (writes.map Prod.fst), none) ∨
      ∃ done piece left rest met, writes = done ++ (piece, left) :: rest ∧
        writer (page.length + done.length) = some met ∧
        page.putAll writer writes =
          (page ++ whole (done.map Prod.fst) ++ [(piece, some met)], some (met.cause, left)) := by
  induction writes generalizing page with
  | nil => exact .inl (Prod.ext (List.append_nil page).symm rfl)
  | cons write rest ih =>
    obtain ⟨piece, left⟩ := write
    cases met : writer page.length with
    | some met' =>
      refine .inr ⟨[], piece, left, rest, met', rfl, met, ?_⟩
      simp only [putAll, put, met, Option.map_some, whole, List.map_nil, List.append_nil]
    | none =>
      have one : page ++ [(piece, none)] = page ++ whole [piece] := rfl
      have goesOn : page.putAll writer ((piece, left) :: rest) = (page ++ whole [piece]).putAll writer rest := by
        simp only [putAll, put, met, Option.map_none, one]
      rw [goesOn]
      rcases ih (page ++ whole [piece]) with all | ⟨done, piece', left', rest', met', rfl, breaks, broke⟩
      · refine .inl (all.trans (Prod.ext ?_ rfl))
        simp [whole]
      · refine .inr ⟨(piece, left) :: done, piece', left', rest', met', rfl, ?_, broke.trans (Prod.ext ?_ rfl)⟩
        · rw [← breaks]
          simp only [whole, List.length_append, List.length_map, List.length_cons, List.length_nil]
          congr 1
          omega
        · simp [whole]

/-- What is put stands on the page in order, and all of it does unless a write breaks off. -/
theorem entries_putAll (writer : Writer) (page : Page) (writes : List (Written × α)) :
    let put := page.putAll writer writes
    (∃ more, put.1.entries = page.entries ++ more ∧ more <+: Written.entries (writes.map Prod.fst)) ∧
      (put.2 = none → put.1.entries = page.entries ++ Written.entries (writes.map Prod.fst)) := by
  rcases page.putAll_cases writer writes with all | ⟨done, piece, left, rest, met, rfl, -, broke⟩
  · rw [all]
    simp only [entries_append, entries_whole]
    exact ⟨⟨_, rfl, List.prefix_rfl⟩, fun _ => trivial⟩
  · rw [broke]
    refine ⟨⟨Written.entries (done.map Prod.fst), ?_, ?_⟩, nofun⟩
    · simp
    · rw [List.map_append, Written.entries_append]
      exact List.prefix_append _ _

/-- A piece stands on the page whole, or its write breaks off. -/
theorem put_cases (page : Page) (writer : Writer) (piece : Written) :
    page.put writer piece = (page ++ whole [piece], none) ∨
      ∃ after cause, page.put writer piece = (after, some cause) ∧ writer.Breaks cause := by
  cases met : writer page.length with
  | none =>
    refine .inl ?_
    rw [put, met]
    rfl
  | some met' =>
    refine .inr ⟨page ++ [(piece, some met')], met'.cause, ?_, _, met', met, rfl⟩
    rw [put, met]
    rfl

/-- A writer that takes everything leaves all pieces on the page whole. -/
theorem putAll_sound (page : Page) (writes : List (Written × α)) :
    page.putAll Writer.sound writes = (page ++ whole (writes.map Prod.fst), none) := by
  induction writes generalizing page with
  | nil => exact Prod.ext (List.append_nil page).symm rfl
  | cons write rest ih =>
    have goesOn : page.putAll Writer.sound (write :: rest) = (page ++ whole [write.1]).putAll Writer.sound rest := rfl
    rw [goesOn, ih, whole, whole, whole, List.append_assoc]
    rfl

/-- The bytes of a page on which one more piece stands whole. -/
theorem bytes_whole_singleton (page : Page) (shown : String) :
    (page ++ whole [.other shown]).bytes = page.bytes ++ Text.encode shown := by
  simp

end Page

/-! ## The editor on a page -/

namespace Editor

variable {editor : Editor} {tree : FileTree} {trouble : Option Trouble}

/-- What a line makes the editor show. -/
def Step.shown : Step → String
  | .goesOn _ shown | .ends _ _ shown => shown

/-- An editor that ends without having saved shows nothing. -/
theorem shown_of_ends {received : Received} {outcome : EditorOutcome} {after : FileTree} {shown : String}
    (ended : editor.step tree received trouble = .ends outcome after shown) : outcome = .saved ∨ shown = "" := by
  unfold step at ended
  split at ended
  case h_2 =>
    split at ended
    · cases ended
      exact .inl rfl
    · cases ended
      exact .inr rfl
  all_goals
    cases ended
    try exact .inr rfl

/-- **A line does the same on a page.** -/
theorem stepOn_sound (page : Page) (editor : Editor) (tree : FileTree) (received : Received)
    (trouble : Option Trouble) :
    (editor.stepOn Writer.sound page tree received trouble).2 = editor.step tree received trouble ∧
      (editor.stepOn Writer.sound page tree received trouble).1.bytes =
        page.bytes ++ Text.encode (editor.step tree received trouble).shown := by
  unfold stepOn
  cases taken : editor.step tree received trouble with
  | goesOn next shown => exact ⟨rfl, page.bytes_whole_singleton shown⟩
  | ends outcome after shown =>
    have quiet : outcome = .saved ∨ shown = "" := shown_of_ends taken
    cases outcome with
    | saved => exact ⟨rfl, page.bytes_whole_singleton shown⟩
    | discarded | failed cause =>
      obtain rfl : shown = "" := quiet.resolve_left nofun
      exact ⟨rfl, (List.append_nil _).symm⟩

/-- A sitting at the editor is a run of it on a page. -/
structure Sitting.IsRun (sitting : Sitting) (earlier : Text.Bytes) (plain : Run) : Prop where
  outcome : sitting.outcome = plain.outcome
  tree : sitting.tree = plain.tree
  rest : sitting.rest = plain.rest
  bytes : sitting.page.bytes = earlier ++ Text.encode plain.shown

/-- Received lines do the same on a page. -/
theorem runOn_sound {page : Page} {earlier : Text.Bytes} {shown : String} (input : List Received)
    (bytes : page.bytes = earlier ++ Text.encode shown) :
    (editor.runOn Writer.sound page tree input trouble).IsRun earlier (editor.run tree shown input trouble) := by
  induction input generalizing editor page shown with
  | nil => exact ⟨rfl, rfl, rfl, bytes⟩
  | cons received rest ih =>
    obtain ⟨same, more⟩ := stepOn_sound page editor tree received trouble
    have grown : (editor.stepOn Writer.sound page tree received trouble).1.bytes =
        earlier ++ Text.encode (shown ++ (editor.step tree received trouble).shown) := by
      rw [more, bytes, Text.encode_append, List.append_assoc]
    unfold runOn run
    generalize editor.stepOn Writer.sound page tree received trouble = on at same grown ⊢
    obtain ⟨page', step⟩ := on
    obtain rfl : step = editor.step tree received trouble := same
    cases taken : editor.step tree received trouble with
    | goesOn next told =>
      rw [taken] at grown
      exact ih grown
    | ends outcome after told =>
      rw [taken] at grown
      exact ⟨rfl, rfl, rfl, grown⟩

/-- **To edit a file on a page is to edit it**, when the writer takes everything. -/
theorem editOn_sound (page : Page) (path : Resolved) (tree : FileTree) (input : List Received)
    (trouble : Option Trouble) :
    (editOn Writer.sound page path tree input trouble).IsRun page.bytes (edit path tree input trouble) := by
  unfold editOn edit
  cases openOn path tree with
  | error cause => exact ⟨rfl, rfl, rfl, (List.append_nil _).symm⟩
  | ok editor => exact runOn_sound input (page.bytes_whole_singleton editor.greeting)

end Editor

/-! ## The terminal on a page -/

namespace Terminal

variable {terminal : Terminal}

theorem screen_printWrites (terminal : Terminal) :
    Written.screen (terminal.printWrites.map Prod.fst) = terminal.printNew.2 := by
  have entries : (terminal.unprinted.map fun line => (Written.entry line, terminal)).map Prod.fst =
      terminal.unprinted.map .entry := by
    rw [List.map_map]
    rfl
  rw [printWrites, List.map_append, entries, Written.screen_append, Written.screen, List.map_map]
  exact String.append_empty

theorem screen_waitWrites (rounds : Nat) (terminal : Terminal) :
    Written.screen ((waitWrites rounds terminal).map Prod.fst) = (terminal.waitRounds rounds).2 := by
  induction rounds generalizing terminal with
  | zero => rfl
  | succ rounds ih =>
    rw [waitWrites, waitRounds]
    cases terminal.session.nextDue? with
    | none => rfl
    | some due =>
      dsimp only
      rw [List.map_append, Written.screen_append, screen_printWrites, ih]

theorem screen_missionWrites (terminal : Terminal) :
    Written.screen (terminal.missionWrites.map Prod.fst) = terminal.tellMissions.2 := by
  rw [missionWrites, Written.screen, List.map_map, List.map_map]
  rfl

/-- The pieces that come of a line are what is shown of it. -/
theorem screen_presentWrites (terminal : Terminal) (session : Session Listener) (line : String) :
    Written.screen ((terminal.presentWrites session line).map Prod.fst) = (terminal.present session line).2 := by
  have mark (left : Terminal) : Written.screen
      ((if session.cleared then [(Written.other clearScreen, left)] else []).map Prod.fst) =
        if session.cleared then clearScreen else "" := by
    split <;> rfl
  simp only [presentWrites, List.map_append, Written.screen_append, mark, screen_printWrites, screen_waitWrites,
    screen_missionWrites]
  rfl

/-- What stands for a step of the terminal on a page. -/
structure IsStep (page : Page) (on : Page × Terminal × Status) (plain : Terminal × String × Status) : Prop where
  terminal : on.2.1 = plain.1
  status : on.2.2 = plain.2.2
  bytes : on.1.bytes = page.bytes ++ Text.encode plain.2.1

/-- The terminal without its editor. -/
def shut (terminal : Terminal) : Terminal :=
  { terminal with editor := none }

/-- An editor that has failed is shut. -/
theorem failEditor_shut (writer : Writer) (page : Page) (terminal : Terminal) (cause : EditorFailure) :
    (terminal.failEditor writer page cause).2.1 = terminal.shut := by
  unfold failEditor
  cases page.put writer (.other (editorFailureMark ++ cause.message ++ "\n")) with
  | mk put broke => cases broke <;> rfl

theorem failEditor_sound (page : Page) (terminal : Terminal) (cause : EditorFailure) :
    IsStep page (terminal.failEditor Writer.sound page cause)
      ({ terminal with editor := none }, editorFailureMark ++ cause.message ++ "\n",
        { terminal with editor := none }.status) :=
  ⟨rfl, rfl, page.bytes_whole_singleton _⟩

/-- To open the editor on a page is to open it, when none is open. -/
theorem openEditorOn_sound (page : Page) (closed : terminal.editor = none) :
    let opened := terminal.openEditor
    IsStep page (terminal.openEditorOn Writer.sound page)
      (opened.1, opened.2, if opened.1.editor.isSome then .running else opened.1.status) := by
  have shut : ¬ terminal.editor.isSome = true := by simp [closed]
  unfold openEditorOn openEditor
  cases terminal.session.takeEditorRequest with
  | mk request session =>
    cases request with
    | none =>
      refine ⟨rfl, ?_, (List.append_nil _).symm⟩
      exact (if_neg shut).symm
    | some path =>
      dsimp only
      cases Editor.openOn path session.scene.tree with
      | ok editor => exact ⟨rfl, rfl, page.bytes_whole_singleton _⟩
      | error cause =>
        obtain ⟨left, status, bytes⟩ := failEditor_sound page { terminal with session } cause
        refine ⟨left.trans ?_, status.trans (if_neg shut).symm, bytes⟩
        dsimp only
        rw [← closed]

theorem stepEditorOn_sound (page : Page) (terminal : Terminal) (editor : Editor) (received : Received) :
    IsStep page (terminal.stepEditorOn Writer.sound page editor received) (terminal.stepEditor editor received) := by
  obtain ⟨same, bytes⟩ :=
    Editor.stepOn_sound page editor terminal.session.scene.tree received terminal.session.trouble
  unfold stepEditorOn stepEditor
  dsimp only
  generalize editor.stepOn Writer.sound page terminal.session.scene.tree received terminal.session.trouble = on
    at same bytes ⊢
  obtain ⟨page', step⟩ := on
  obtain rfl : step = editor.step terminal.session.scene.tree received terminal.session.trouble := same
  cases taken : editor.step terminal.session.scene.tree received terminal.session.trouble with
  | goesOn next shown =>
    rw [taken] at bytes
    exact ⟨rfl, rfl, bytes⟩
  | ends outcome after shown =>
    have quiet : outcome = .saved ∨ shown = "" := Editor.shown_of_ends taken
    rw [taken] at bytes
    cases outcome with
    | saved | discarded =>
      refine ⟨rfl, rfl, bytes.trans ?_⟩
      dsimp only
      rw [String.append_empty]
      rfl
    | failed cause =>
      obtain rfl : shown = "" := quiet.resolve_left nofun
      obtain ⟨left, status, more⟩ := failEditor_sound page'
        { terminal with
          session := { terminal.session with scene := { terminal.session.scene with tree := after } } } cause
      have same : page'.bytes = page.bytes := bytes.trans (List.append_nil _)
      refine ⟨left, status, more.trans ?_⟩
      rw [same]
      dsimp only
      rw [String.empty_append]

/-- To conclude a line on a page is to conclude it, when no editor is open. -/
theorem concludeOn_sound (page : Page) (closed : terminal.editor = none) (session : Session Listener) (line : String) :
    IsStep page (terminal.concludeOn Writer.sound page session line) (terminal.conclude session line) := by
  have unopened : (terminal.present session line).1.editor = none :=
    (sameFiles_present terminal session line).editor.trans closed
  have shown := screen_presentWrites terminal session line
  unfold concludeOn conclude
  rw [Page.putAll_sound]
  generalize terminal.present session line = after at unopened shown ⊢
  obtain ⟨left, status, bytes⟩ :=
    openEditorOn_sound (page ++ Page.whole ((terminal.presentWrites session line).map Prod.fst)) unopened
  refine ⟨left, status, bytes.trans ?_⟩
  rw [Page.bytes_append, Page.bytes_whole, shown, List.append_assoc, ← Text.encode_append]

theorem runLineOn_sound (page : Page) (closed : terminal.editor = none) (line : String) :
    IsStep page (terminal.runLineOn Writer.sound page line) (terminal.runLine line) := by
  unfold runLineOn runLine
  cases terminal.session.handle terminal.now line with
  | mk session broke =>
    cases broke with
    | true => exact ⟨rfl, rfl, (List.append_nil _).symm⟩
    | false =>
      have shut : terminal.forgotten.editor = none := closed
      exact concludeOn_sound page shut session line

/-- **A step does the same on a page.** -/
theorem stepOn_sound (page : Page) (terminal : Terminal) (received : Received) :
    IsStep page (terminal.stepOn Writer.sound page received) (terminal.step received) := by
  unfold stepOn step
  cases opened : terminal.editor with
  | some editor => exact stepEditorOn_sound page terminal editor received
  | none =>
    cases received with
    | malformed => exact ⟨rfl, rfl, (List.append_nil _).symm⟩
    | line text =>
      dsimp only
      unfold stepPromptOn stepPrompt
      cases Arrow.parse? text with
      | some arrows => exact ⟨rfl, rfl, page.bytes_whole_singleton _⟩
      | none => exact runLineOn_sound page opened _

/-- What is put before a line is taken is what is shown then. -/
theorem awaitOn_sound (page : Page) (terminal : Terminal) :
    (terminal.awaitOn Writer.sound page).2 = none ∧
      (terminal.awaitOn Writer.sound page).1.bytes = page.bytes ++ Text.encode terminal.awaiting := by
  unfold awaitOn awaiting
  cases terminal.editor with
  | some editor => exact ⟨rfl, (List.append_nil _).symm⟩
  | none => exact ⟨rfl, page.bytes_whole_singleton _⟩

/-- A sitting at the terminal is a run of it on a page. -/
structure Sitting.IsRun (sitting : Sitting) (earlier : Text.Bytes) (plain : Run) : Prop where
  terminal : sitting.terminal = plain.terminal
  failure : sitting.failure = plain.failure
  bytes : sitting.page.bytes = earlier ++ Text.encode plain.screen

theorem closeOn_sound (page : Page) (terminal : Terminal) :
    (terminal.closeOn Writer.sound page).IsRun page.bytes ⟨terminal.close.1, terminal.close.2, none⟩ := by
  unfold closeOn close
  dsimp only
  cases opened : terminal.editor with
  | none =>
    rw [Page.putAll_sound]
    refine ⟨?_, rfl, page.bytes_whole_singleton "\n"⟩
    dsimp only
    rw [← opened]
  | some editor =>
    dsimp only
    cases terminal.session.exitRequested with
    | true => exact ⟨rfl, rfl, (List.append_nil _).symm⟩
    | false =>
      refine ⟨rfl, rfl, ?_⟩
      simp [Page.putAll_sound]

/-- **A run on a page is a run**, when the writer takes everything: it leaves the same terminal, stops for the same,
and the bytes on the page are those of the screen. -/
theorem runOn_sound (page : Page) (terminal : Terminal) (script : List Received) :
    (terminal.runOn Writer.sound page script).IsRun page.bytes (terminal.run script) := by
  induction script generalizing page terminal with
  | nil =>
    obtain ⟨taken, prompted⟩ := terminal.awaitOn_sound page
    unfold runOn run
    generalize terminal.awaitOn Writer.sound page = awaited at taken prompted ⊢
    obtain ⟨page', broke⟩ := awaited
    obtain rfl : broke = none := taken
    obtain ⟨left, failure, bytes⟩ := terminal.closeOn_sound page'
    refine ⟨left, failure, bytes.trans ?_⟩
    rw [prompted, Text.encode_append, List.append_assoc]
  | cons received rest ih =>
    obtain ⟨taken, prompted⟩ := terminal.awaitOn_sound page
    unfold runOn run
    generalize terminal.awaitOn Writer.sound page = awaited at taken prompted ⊢
    obtain ⟨page', broke⟩ := awaited
    obtain rfl : broke = none := taken
    obtain ⟨left, status, shown⟩ := terminal.stepOn_sound page' received
    dsimp only at prompted ⊢
    generalize terminal.stepOn Writer.sound page' received = on at left status shown ⊢
    obtain ⟨page'', after, told⟩ := on
    cases stepped : terminal.step received with
    | mk after' told' =>
      obtain ⟨written, status'⟩ := told'
      rw [stepped] at left status shown
      obtain rfl : after = after' := left
      obtain rfl : told = status' := status
      have grown : page''.bytes = page.bytes ++ Text.encode (terminal.awaiting ++ written) := by
        rw [shown, prompted, Text.encode_append, List.append_assoc]
      cases told with
      | running =>
        obtain ⟨last, failure, bytes⟩ := ih page'' after.tick
        refine ⟨last, failure, bytes.trans ?_⟩
        rw [grown, List.append_assoc, ← Text.encode_append]
      | finished => exact ⟨rfl, rfl, grown⟩
      | failed stop => exact ⟨rfl, rfl, grown⟩

end Terminal

end ConfinedShell
