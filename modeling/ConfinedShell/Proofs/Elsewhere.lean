import ConfinedShell.Proofs.Integrity
import ConfinedShell.Proofs.Parallel
import ConfinedShell.Proofs.Utf8

/-!
# A terminal elsewhere

Two terminals may differ in where their files are: in the files themselves, in the sandbox over them, in the physical
paths that stand for checked ones, and in the storage, but for its trouble (`Elsewhere`). What a session and a terminal
do with the outcome of a command does not look at any of these. So when commands end in the same way (`SameResult`), an
editor opens in the same way, and writing from it ends in the same way, the terminals show the same and remember the
same (`Terminal.Mirror`), wherever a write breaks off: one step after the other (`Terminal.Mirror.stepOn_same`), and
over a whole run (`Terminal.Mirror.runOn`). A run without a page is one of which a writer takes everything
(`Terminal.Mirror.run`).
-/

set_option autoImplicit false

namespace ConfinedShell

/-- **Another place for the files** of a terminal: the sandbox there, the path there that stands for a checked one, and
the storage there. The virtual path is the same, and so is the trouble that the storage gives. -/
structure Elsewhere where
  sandbox : Sandbox
  carry : Resolved → Resolved
  storage : Storage → Storage
  keeps : ∀ path, (carry path).virtualPath = path.virtualPath
  trouble : ∀ here, (storage here).trouble = here.trouble

namespace Elsewhere

variable (place : Elsewhere)

/-- The written form of a path is the same. -/
theorem text (path : Resolved) : (place.carry path).text = path.text :=
  congrArg VirtualPath.text (place.keeps path)

/-- An editor greets in the same way. -/
theorem greeting (editor : Editor) : (editor.carried place.carry).greeting = editor.greeting := by
  rw [Editor.greeting, Editor.greeting]
  dsimp only [Editor.carried]
  rw [place.text]

/-- A failed editor is told of in the same words. -/
theorem message (cause : EditorFailure) :
    ∃ carried : EditorFailure, (EditorOutcome.failed cause).carried place.carry = .failed carried ∧
      carried.message = cause.message := by
  cases cause with
  | reading path cause => exact ⟨_, rfl, by rw [EditorFailure.message, EditorFailure.message, place.text]⟩
  | saving path cause => exact ⟨_, rfl, by rw [EditorFailure.message, EditorFailure.message, place.text]⟩
  | input => exact ⟨_, rfl, rfl⟩
  | writing cause => exact ⟨_, rfl, rfl⟩

end Elsewhere

/-- An output, with the path for an editor as it is elsewhere. -/
def Output.elsewhere (place : Elsewhere) : Output → Output
  | .edit path => .edit (place.carry path)
  | output => output

/-- **Two commands end in the same way**: with the same output or in the same fault, in the same current directory
and with related trees. -/
inductive SameResult (place : Elsewhere) (related : FileTree → FileTree → Prop) :
    EStateM.Result Fault Scene Output → EStateM.Result Fault Scene Output → Prop where
  | ok (output : Output) {scene other : Scene} (cwd : other.cwd = scene.cwd)
      (same : related scene.tree other.tree) :
      SameResult place related (.ok output scene) (.ok (output.elsewhere place) other)
  | error (fault : Fault) {scene other : Scene} (cwd : other.cwd = scene.cwd)
      (same : related scene.tree other.tree) :
      SameResult place related (.error fault scene) (.error fault other)

variable {place : Elsewhere} {related : FileTree → FileTree → Prop}

/-- A call breaks down over both or over neither. -/
theorem SameResult.breaksDown {result other : EStateM.Result Fault Scene Output}
    (ends : SameResult place related result other) (now : Moment) :
    Session.breaksDown now other = Session.breaksDown now result := by
  cases ends with
  | ok output cwd same => cases output <;> rfl
  | error fault cwd same => rfl

/-! ## A session -/

namespace Session

variable {σ : Type}

/-- A session elsewhere, over another tree. -/
def elsewhere (session : Session σ) (place : Elsewhere) (tree : FileTree) : Session σ :=
  { session with
    sandbox := place.sandbox
    storage := fun line => place.storage (session.storage line)
    scene := { session.scene with tree }
    editorRequest := session.editorRequest.map place.carry }

theorem apply_elsewhere (session : Session σ) (tree : FileTree) (now : Moment) (output : Output) :
    (session.elsewhere place tree).apply now (output.elsewhere place) =
      (session.apply now output).elsewhere place tree := by
  cases output <;> rfl

/-- A session elsewhere whose scene is replaced by one with the same current directory. -/
theorem elsewhere_of_scene (session : Session σ) (tree : FileTree) {scene other : Scene}
    (same : other.cwd = scene.cwd) :
    { session.elsewhere place tree with scene := other } =
      { session with scene := scene }.elsewhere place other.tree := by
  obtain ⟨tree', cwd⟩ := other
  cases same
  rfl

/-- A session responds in the same way elsewhere when the command ends in the same way. -/
theorem respond_elsewhere {session : Session σ} {now : Moment} {name : String} {arguments : List String}
    {other : FileTree} (ends : SameResult place related (session.dispatch now name arguments)
      ((session.elsewhere place other).dispatch now name arguments)) :
    ∃ tree, (session.elsewhere place other).respond now name arguments =
        (session.respond now name arguments).elsewhere place tree ∧
      related (session.respond now name arguments).scene.tree tree := by
  unfold respond conclude
  generalize session.dispatch now name arguments = result at ends ⊢
  generalize (session.elsewhere place other).dispatch now name arguments = result' at ends ⊢
  cases ends with
  | @ok output scene scene' cwd same =>
    refine ⟨scene'.tree, ?_, ?_⟩
    · dsimp only
      rw [elsewhere_of_scene session other cwd, apply_elsewhere]
    · dsimp only
      rw [scene_apply]
      exact same
  | @error fault scene scene' cwd same =>
    refine ⟨scene'.tree, ?_, same⟩
    dsimp only
    rw [elsewhere_of_scene session other cwd]
    rfl

theorem publishUnless_elsewhere (session : Session σ) (tree : FileTree) (broke : Bool) (line : String) :
    (session.elsewhere place tree).publishUnless broke line =
      (session.publishUnless broke line).elsewhere place tree := by
  cases broke <;> rfl

/-- **A line does the same elsewhere** when its command ends in the same way. -/
theorem handle_elsewhere {session : Session σ} {line : String} {now : Moment} {other : FileTree}
    (same : related session.scene.tree other)
    (ends : ∀ name arguments, tokenize (Text.trim line) = some (name, arguments) →
      SameResult place related ((session.noted (Text.trim line)).dispatch now name arguments)
        (((session.noted (Text.trim line)).elsewhere place other).dispatch now name arguments)) :
    ∃ tree, (session.elsewhere place other).handle now line =
        ((session.process now line).elsewhere place tree, (session.handle now line).2) ∧
      related (session.process now line).scene.tree tree := by
  unfold process
  cases tokens : tokenize (Text.trim line) with
  | none =>
    rw [handle_of_blank tokens, handle_of_blank tokens]
    exact ⟨other, rfl, same⟩
  | some call =>
    obtain ⟨name, arguments⟩ := call
    obtain ⟨tree, responds, same⟩ := respond_elsewhere (ends name arguments tokens)
    have broke := (ends name arguments tokens).breaksDown now
    have noted : (session.elsewhere place other).noted (Text.trim line) =
        (session.noted (Text.trim line)).elsewhere place other := rfl
    rw [handle_of_tokens tokens, handle_of_tokens tokens, noted]
    dsimp only
    rw [broke, responds, publishUnless_elsewhere]
    refine ⟨tree, rfl, ?_⟩
    obtain ⟨audience, told⟩ := ((session.noted (Text.trim line)).respond now name arguments).exists_publishUnless
      (breaksDown now ((session.noted (Text.trim line)).dispatch now name arguments)) (Text.trim line)
    rw [told]
    exact same

end Session

/-! ## A terminal -/

namespace Terminal

/-- A terminal over a session elsewhere. -/
def elsewhere (terminal : Terminal) (place : Elsewhere) (tree : FileTree) : Terminal :=
  { terminal with
    session := terminal.session.elsewhere place tree
    editor := terminal.editor.map (Editor.carried place.carry) }

theorem editor_elsewhere (terminal : Terminal) (place : Elsewhere) (tree : FileTree) :
    (terminal.elsewhere place tree).editor = terminal.editor.map (Editor.carried place.carry) := rfl

/-- What is shown before a line is taken is the same. -/
theorem awaiting_elsewhere (terminal : Terminal) (tree : FileTree) :
    (terminal.elsewhere place tree).awaiting = terminal.awaiting := by
  rw [awaiting, awaiting, editor_elsewhere]
  cases terminal.editor <;> rfl

theorem waitRounds_elsewhere (rounds : Nat) (terminal : Terminal) (tree : FileTree) :
    (waitRounds rounds (terminal.elsewhere place tree)).1 = (waitRounds rounds terminal).1.elsewhere place tree := by
  induction rounds generalizing terminal with
  | zero => rfl
  | succ rounds ih =>
    rw [waitRounds, waitRounds]
    have same : (terminal.elsewhere place tree).session.nextDue? = terminal.session.nextDue? := rfl
    rw [same]
    cases terminal.session.nextDue? with
    | none => rfl
    | some due => exact ih (terminal.waitedUntil due).printNew.1

variable {terminal : Terminal}

/-! ## What is put on a page -/

/-- Writes elsewhere: the same pieces, with the terminals that are left there. -/
def writesElsewhere (place : Elsewhere) (tree : FileTree) (writes : List (Written × Terminal)) :
    List (Written × Terminal) :=
  writes.map fun write => (write.1, write.2.elsewhere place tree)

theorem printWrites_elsewhere (terminal : Terminal) (tree : FileTree) :
    (terminal.elsewhere place tree).printWrites = writesElsewhere place tree terminal.printWrites := by
  rw [printWrites, writesElsewhere, printWrites, List.map_append, List.map_map]
  rfl

theorem waitWrites_elsewhere (rounds : Nat) (terminal : Terminal) (tree : FileTree) :
    waitWrites rounds (terminal.elsewhere place tree) = writesElsewhere place tree (waitWrites rounds terminal) := by
  induction rounds generalizing terminal with
  | zero => rfl
  | succ rounds ih =>
    rw [waitWrites, waitWrites]
    have same : (terminal.elsewhere place tree).session.nextDue? = terminal.session.nextDue? := rfl
    rw [same]
    cases terminal.session.nextDue? with
    | none => rfl
    | some due =>
      have waited : (terminal.elsewhere place tree).waitedUntil due =
          (terminal.waitedUntil due).elsewhere place tree := rfl
      have printed : ((terminal.waitedUntil due).elsewhere place tree).printNew.1 =
          (terminal.waitedUntil due).printNew.1.elsewhere place tree := rfl
      dsimp only
      rw [waited, printed, printWrites_elsewhere, ih, writesElsewhere, writesElsewhere, writesElsewhere,
        List.map_append]

theorem missionWrites_elsewhere (terminal : Terminal) (tree : FileTree) :
    (terminal.elsewhere place tree).missionWrites = writesElsewhere place tree terminal.missionWrites := by
  rw [missionWrites, writesElsewhere, missionWrites, List.map_map]
  rfl

/-- What is shown of a line leaves the terminal elsewhere that it leaves here. -/
theorem present_elsewhere (terminal : Terminal) (session : Session Listener) (line : String) (other tree : FileTree) :
    ((terminal.elsewhere place other).present (session.elsewhere place tree) line).1 =
      (terminal.present session line).1.elsewhere place tree := by
  let shown := (terminal.counted session (tokenize (Text.trim line)).isSome).printNew.1
  exact congrArg (fun waited : Terminal => waited.tellMissions.1) (waitRounds_elsewhere _ shown tree)

/-- What is written of a line does not depend on where the files are. -/
theorem presentWrites_elsewhere (terminal : Terminal) (session : Session Listener) (line : String)
    (other tree : FileTree) :
    (terminal.elsewhere place other).presentWrites (session.elsewhere place tree) line =
      writesElsewhere place tree (terminal.presentWrites session line) := by
  let counted := terminal.counted session (tokenize (Text.trim line)).isSome
  have cleared : (if session.cleared then
        [(Written.other clearScreen, { counted.elsewhere place tree with printed := terminal.printed })] else []) =
      writesElsewhere place tree (if session.cleared then
        [(Written.other clearScreen, { counted with printed := terminal.printed })] else []) := by
    split <;> rfl
  let printed := counted.printNew.1
  have waited : (printed.elsewhere place tree).wait.1 = printed.wait.1.elsewhere place tree :=
    waitRounds_elsewhere _ _ tree
  have told : (printed.elsewhere place tree).wait.1.missionWrites =
      writesElsewhere place tree printed.wait.1.missionWrites := by rw [waited, missionWrites_elsewhere]
  have appended (first second : List (Written × Terminal)) : writesElsewhere place tree (first ++ second) =
      writesElsewhere place tree first ++ writesElsewhere place tree second := List.map_append
  unfold presentWrites
  rw [appended, appended, appended, ← cleared, ← printWrites_elsewhere, ← waitWrites_elsewhere, ← told]
  rfl

/-- Pieces are put on a page in the same way, whatever terminals come with them. -/
theorem putAll_elsewhere (writer : Writer) (page : Page) (tree : FileTree) (writes : List (Written × Terminal)) :
    page.putAll writer (writesElsewhere place tree writes) =
      ((page.putAll writer writes).1,
        (page.putAll writer writes).2.map fun met => (met.1, met.2.elsewhere place tree)) := by
  induction writes generalizing page with
  | nil => rfl
  | cons write rest ih =>
    obtain ⟨piece, left⟩ := write
    rw [writesElsewhere, List.map_cons, Page.putAll, Page.putAll]
    cases page.put writer piece with
    | mk put broke =>
      cases broke with
      | none => exact ih put
      | some cause => rfl

/-! ## A step on a page -/

variable {writer : Writer} {page : Page}

/-- What a step on a page leaves, elsewhere. -/
def leftElsewhere (place : Elsewhere) (tree : FileTree) (on : Page × Terminal × Status) : Page × Terminal × Status :=
  (on.1, on.2.1.elsewhere place tree, on.2.2)

/-- A failed editor is told of in the same way. -/
theorem failEditor_elsewhere (terminal : Terminal) (tree : FileTree) {cause carried : EditorFailure}
    (told : carried.message = cause.message) :
    (terminal.elsewhere place tree).failEditor writer page carried =
      leftElsewhere place tree (terminal.failEditor writer page cause) := by
  unfold failEditor
  rw [told]
  cases page.put writer (.other (editorFailureMark ++ cause.message ++ "\n")) with
  | mk put broke => cases broke <;> rfl

/-- **An editor opens in the same way elsewhere**: on the same lines, by the path that stands for its own. -/
def OpensAlike (place : Elsewhere) (tree other : FileTree) (path : Resolved) : Prop :=
  ∃ editor, Editor.openOn path tree = .ok editor ∧
    Editor.openOn (place.carry path) other = .ok (editor.carried place.carry)

theorem openEditorOn_elsewhere {asked : Terminal} {other : FileTree}
    (opens : ∀ path, asked.session.editorRequest = some path →
      OpensAlike place asked.session.scene.tree other path) :
    (asked.elsewhere place other).openEditorOn writer page =
      leftElsewhere place other (asked.openEditorOn writer page) := by
  unfold openEditorOn Session.takeEditorRequest
  have carried : (asked.elsewhere place other).session.editorRequest =
      asked.session.editorRequest.map place.carry := rfl
  rw [carried]
  cases requested : asked.session.editorRequest with
  | none => rfl
  | some path =>
    obtain ⟨editor, opened, opened'⟩ := opens path requested
    have here : (asked.elsewhere place other).session.scene.tree = other := rfl
    dsimp only [Option.map_some]
    rw [opened, here, opened']
    dsimp only
    rw [place.greeting]
    cases page.put writer (.other editor.greeting) with
    | mk put broke =>
      cases broke with
      | none => rfl
      | some cause =>
        let closed := { asked with session := { asked.session with editorRequest := none } }
        exact closed.failEditor_elsewhere other rfl

/-- What comes of a line is put on a page in the same way, and the editor opens in the same way after it. -/
theorem concludeOn_elsewhere (terminal : Terminal) {session : Session Listener} (line : String) (other : FileTree)
    {tree : FileTree} (opens : ∀ path, session.editorRequest = some path →
      OpensAlike place session.scene.tree tree path) :
    (terminal.elsewhere place other).concludeOn writer page (session.elsewhere place tree) line =
      leftElsewhere place tree (terminal.concludeOn writer page session line) := by
  have same := sameFiles_present terminal session line
  unfold concludeOn
  rw [presentWrites_elsewhere, putAll_elsewhere, present_elsewhere]
  cases page.putAll writer (terminal.presentWrites session line) with
  | mk put broke =>
    cases broke with
    | some met => rfl
    | none =>
      refine openEditorOn_elsewhere fun path requested => ?_
      rw [same.editorRequest] at requested
      rw [same.scene]
      exact opens path requested

/-- On a page too, an editor does the same when its step does. -/
theorem editor_stepOn_elsewhere {editor : Editor} {tree other : FileTree} {received : Received}
    {trouble : Option Trouble} (same : related tree other)
    (steps : Editor.SameStep place.carry related (editor.step tree received trouble)
      ((editor.carried place.carry).step other received trouble)) :
    ((editor.carried place.carry).stepOn writer page other received trouble).1 =
        (editor.stepOn writer page tree received trouble).1 ∧
      Editor.SameStep place.carry related (editor.stepOn writer page tree received trouble).2
        ((editor.carried place.carry).stepOn writer page other received trouble).2 := by
  unfold Editor.stepOn
  generalize editor.step tree received trouble = stepped at steps ⊢
  generalize (editor.carried place.carry).step other received trouble = stepped' at steps ⊢
  cases steps with
  | goesOn next shown =>
    dsimp only
    cases page.put writer (.other shown) with
    | mk put broke =>
      cases broke with
      | none => exact ⟨rfl, .goesOn next shown⟩
      | some cause => exact ⟨rfl, .ends (.failed (.writing cause)) "" same⟩
  | ends outcome shown left =>
    cases outcome with
    | discarded => exact ⟨rfl, .ends .discarded shown left⟩
    | failed cause =>
      obtain ⟨carried, failed, -⟩ := place.message cause
      have ends : Editor.SameStep place.carry related (.ends (.failed cause) _ shown)
          (.ends ((EditorOutcome.failed cause).carried place.carry) _ shown) := .ends _ shown left
      rw [failed] at ends ⊢
      exact ⟨rfl, ends⟩
    | saved =>
      dsimp only [EditorOutcome.carried]
      cases page.put writer (.other shown) with
      | mk put broke =>
        cases broke with
        | none => exact ⟨rfl, .ends .saved shown left⟩
        | some cause => exact ⟨rfl, .ends (.failed (.writing cause)) "" left⟩

/-- An open editor does the same elsewhere when writing to its file ends in the same way. -/
theorem stepEditorOn_elsewhere {editor : Editor} {other : FileTree}
    (same : related terminal.session.scene.tree other)
    (writes : ∀ bytes, SameEnd related (editor.path.write terminal.session.scene.tree bytes)
      ((place.carry editor.path).write other bytes)) (received : Received) :
    ∃ tree, (terminal.elsewhere place other).stepEditorOn writer page (editor.carried place.carry) received =
        leftElsewhere place tree (terminal.stepEditorOn writer page editor received) ∧
      related (terminal.stepEditorOn writer page editor received).2.1.session.scene.tree tree := by
  have steps := Editor.step_same same (place.keeps editor.path) writes received terminal.session.trouble
  unfold stepEditorOn
  have here : (terminal.elsewhere place other).session.scene.tree = other := rfl
  have met : (terminal.elsewhere place other).session.trouble = terminal.session.trouble := place.trouble _
  dsimp only
  rw [here, met]
  obtain ⟨pages, steps⟩ := editor_stepOn_elsewhere same steps
  generalize editor.stepOn writer page terminal.session.scene.tree received _ = stepped at pages steps ⊢
  generalize (editor.carried place.carry).stepOn writer page other received _ = stepped' at pages steps ⊢
  obtain ⟨page', step⟩ := stepped
  obtain ⟨page'', step'⟩ := stepped'
  obtain rfl : page'' = page' := pages
  dsimp only at steps
  cases steps with
  | goesOn editor shown => exact ⟨other, rfl, same⟩
  | @ends outcome shown tree tree' same =>
    refine ⟨tree', ?_, ?_⟩
    · match outcome with
      | .saved => rfl
      | .discarded => rfl
      | .failed cause =>
        obtain ⟨carried, failed, told⟩ := place.message cause
        let scene := { terminal.session.scene with tree }
        let closed := { terminal with session := { terminal.session with scene }, editor := none }
        rw [failed]
        exact closed.failEditor_elsewhere tree' told
    · match outcome with
      | .saved => exact same
      | .discarded => exact same
      | .failed cause =>
        dsimp only
        rw [failEditor_shut]
        exact same

/-- What is put before a line is taken is the same. -/
theorem awaitOn_elsewhere (terminal : Terminal) (tree : FileTree) :
    (terminal.elsewhere place tree).awaitOn writer page = terminal.awaitOn writer page := by
  unfold awaitOn
  rw [awaiting_elsewhere, editor_elsewhere]
  cases terminal.editor <;> rfl

/-- The end of the input does the same. -/
theorem closeOn_elsewhere (terminal : Terminal) (tree : FileTree) :
    (terminal.elsewhere place tree).closeOn writer page =
      { terminal.closeOn writer page with
        terminal := (terminal.closeOn writer page).terminal.elsewhere place tree } := by
  have closes (writes : List (Written × Terminal)) :
      let on := page.putAll writer (writesElsewhere place tree writes)
      let here := page.putAll writer writes
      (⟨terminal.shut.elsewhere place tree, on.1, on.2.map fun met => .writing met.1⟩ : Sitting) =
        ⟨terminal.shut.elsewhere place tree, here.1, here.2.map fun met => .writing met.1⟩ := by
    dsimp only
    rw [putAll_elsewhere]
    cases page.putAll writer writes with
    | mk put broke => cases broke <;> rfl
  unfold closeOn
  rw [editor_elsewhere]
  cases terminal.editor with
  | none => exact closes [(.other "\n", terminal.shut)]
  | some editor =>
    have asks : (terminal.elsewhere place tree).session.exitRequested = terminal.session.exitRequested := rfl
    dsimp only [Option.map_some]
    rw [asks]
    cases terminal.session.exitRequested with
    | true => exact closes []
    | false => exact closes [(.other terminal.shut.awaiting, terminal.shut), (.other "\n", terminal.shut)]

/-- **Two terminals are left alike** by their runs: in the same current directory, with the same history and the same
transcript, and with the same subtree at their roots. -/
structure LeftAlike (root root' : Location) (one other : Terminal) : Prop where
  cwd : other.session.scene.cwd = one.session.scene.cwd
  history : other.session.history = one.session.history
  transcript : other.session.transcript = one.session.transcript
  subtree : other.session.scene.tree.at? root' = one.session.scene.tree.at? root

/-! ## A mirror -/

/-- **A place mirrors a terminal** as long as it is fine: commands end in the same way there, an editor opens in the
same way, and so does writing from it end. A terminal stays fine when the time runs on, when it takes a line that fits,
and when its editor is shut. -/
structure Mirror (place : Elsewhere) (related : FileTree → FileTree → Prop) (fine : Terminal → Prop) : Prop where
  dispatch : ∀ {terminal : Terminal} {line name : String} {arguments : List String} {other : FileTree},
    fine terminal → terminal.session.Fits line → tokenize (Text.trim line) = some (name, arguments) →
    related terminal.session.scene.tree other →
    SameResult place related
      ((terminal.session.noted (Text.trim line)).dispatch terminal.now name arguments)
      (((terminal.session.noted (Text.trim line)).elsewhere place other).dispatch terminal.now name arguments)
  opens : ∀ {terminal : Terminal} {line : String} {path : Resolved} {other : FileTree},
    fine terminal → terminal.session.Fits line →
    (terminal.session.process terminal.now line).editorRequest = some path →
    related (terminal.session.process terminal.now line).scene.tree other →
    OpensAlike place (terminal.session.process terminal.now line).scene.tree other path
  writes : ∀ {terminal : Terminal} {editor : Editor} {other : FileTree},
    fine terminal → terminal.editor = some editor → related terminal.session.scene.tree other →
    ∀ bytes, SameEnd related (editor.path.write terminal.session.scene.tree bytes)
      ((place.carry editor.path).write other bytes)
  tick : ∀ {terminal : Terminal}, fine terminal → fine terminal.tick
  shut : ∀ {terminal : Terminal}, fine terminal → fine terminal.shut
  step : ∀ {terminal : Terminal} {received : Received} {other : FileTree},
    fine terminal → (∀ line ∈ terminal.submitted? received, terminal.session.Fits line) →
    related terminal.session.scene.tree other → fine (terminal.step received).1

namespace Mirror

variable {fine : Terminal → Prop} {other : FileTree}

/-- A line that is run puts the same on a page, and the editor opens in the same way after it. -/
theorem runLineOn (mirror : Mirror place related fine) (isFine : fine terminal) {line : String}
    (fits : terminal.session.Fits line) (same : related terminal.session.scene.tree other) :
    ∃ tree, (terminal.elsewhere place other).runLineOn writer page line =
        leftElsewhere place tree (terminal.runLineOn writer page line) ∧
      related (terminal.runLineOn writer page line).2.1.session.scene.tree tree := by
  rw [scene_runLineOn]
  obtain ⟨tree, handled, same⟩ := Session.handle_elsewhere same
    fun name arguments tokens => mirror.dispatch isFine fits tokens same
  have opens := fun path => @mirror.opens terminal line path tree isFine fits
  have there : (terminal.elsewhere place other).session.handle (terminal.elsewhere place other).now line =
      ((terminal.session.process terminal.now line).elsewhere place tree,
        (terminal.session.handle terminal.now line).2) := handled
  refine ⟨tree, ?_, same⟩
  unfold Terminal.runLineOn
  rw [there]
  unfold Session.process at opens same ⊢
  generalize terminal.session.handle terminal.now line = handled at opens same ⊢
  obtain ⟨session, broke⟩ := handled
  cases broke with
  | true => rfl
  | false => exact concludeOn_elsewhere terminal.forgotten line other fun path requested => opens path requested same

/-- The prompt does the same. -/
theorem stepPromptOn (mirror : Mirror place related fine) (isFine : fine terminal)
    (closed : terminal.editor = none) {text : String}
    (fits : ∀ line ∈ terminal.submitted? (.line text), terminal.session.Fits line)
    (same : related terminal.session.scene.tree other) :
    ∃ tree, (terminal.elsewhere place other).stepPromptOn writer page text =
        leftElsewhere place tree (terminal.stepPromptOn writer page text) ∧
      related (terminal.stepPromptOn writer page text).2.1.session.scene.tree tree := by
  unfold Terminal.stepPromptOn
  cases typed : Arrow.parse? text with
  | some arrows =>
    dsimp only
    cases page.put writer (.other "\n") with
    | mk put broke => cases broke <;> exact ⟨other, rfl, same⟩
  | none =>
    have submits : terminal.submitted? (.line text) = some (terminal.lineFor text) := by
      rw [submitted?, closed, typed]
      rfl
    have lineFor : (terminal.elsewhere place other).lineFor text = terminal.lineFor text := rfl
    dsimp only
    rw [lineFor]
    exact mirror.runLineOn isFine (fits _ submits) same

/-- **A step does the same**: it puts the same on the page and ends in the same way. -/
theorem stepOn_same (mirror : Mirror place related fine) (isFine : fine terminal) {received : Received}
    (fits : ∀ line ∈ terminal.submitted? received, terminal.session.Fits line)
    (same : related terminal.session.scene.tree other) :
    ∃ tree, (terminal.elsewhere place other).stepOn writer page received =
        leftElsewhere place tree (terminal.stepOn writer page received) ∧
      related (terminal.stepOn writer page received).2.1.session.scene.tree tree := by
  unfold Terminal.stepOn
  rw [editor_elsewhere]
  cases opened : terminal.editor with
  | some editor => exact stepEditorOn_elsewhere same (mirror.writes isFine opened same) received
  | none =>
    cases received with
    | line text => exact mirror.stepPromptOn isFine opened fits same
    | malformed => exact ⟨other, rfl, same⟩

/-- A terminal is fine after a step on a page that leaves it running. -/
theorem fine_stepOn (mirror : Mirror place related fine) (isFine : fine terminal) {received : Received}
    (fits : ∀ line ∈ terminal.submitted? received, terminal.session.Fits line)
    (same : related terminal.session.scene.tree other)
    (runs : (terminal.stepOn writer page received).2.2 = .running) :
    fine (terminal.stepOn writer page received).2.1 := by
  have stepped := mirror.step isFine fits same
  have follows := stepOn_follows writer page terminal received
  have goesOn (stop : Stop) : (terminal.stepOn writer page received).2.2 ≠ .failed stop := by
    intro failed
    cases runs.symm.trans failed
  rcases follows.same goesOn with plain | shut
  · exact plain ▸ stepped
  · exact shut ▸ mirror.shut stepped

/-- **A run on a page does the same**, but for where it is, and leaves related trees. -/
theorem runOn (mirror : Mirror place related fine) {script : List Received} (isFine : fine terminal)
    (fits : terminal.FitsOn writer page script) (same : related terminal.session.scene.tree other) :
    ∃ tree, (terminal.elsewhere place other).runOn writer page script =
        { terminal.runOn writer page script with
          terminal := (terminal.runOn writer page script).terminal.elsewhere place tree } ∧
      related (terminal.runOn writer page script).terminal.session.scene.tree tree := by
  induction script generalizing page terminal other with
  | nil =>
    unfold Terminal.runOn
    rw [awaitOn_elsewhere]
    cases terminal.awaitOn writer page with
    | mk awaited broke =>
      cases broke with
      | some cause => exact ⟨other, rfl, same⟩
      | none => exact ⟨other, closeOn_elsewhere terminal other, same⟩
  | cons received rest ih =>
    unfold FitsOn at fits
    unfold Terminal.runOn
    rw [awaitOn_elsewhere]
    dsimp only at fits
    generalize terminal.awaitOn writer page = awaited at fits ⊢
    obtain ⟨prompted, broke⟩ := awaited
    cases broke with
    | some cause => exact ⟨other, rfl, same⟩
    | none =>
      obtain ⟨here, later⟩ := fits rfl
      have stepped : (terminal.stepOn writer prompted received).2.2 = .running →
          fine (terminal.stepOn writer prompted received).2.1 := mirror.fine_stepOn isFine here same
      obtain ⟨tree, steps, same⟩ := mirror.stepOn_same isFine here same
      dsimp only at later ⊢
      rw [steps]
      generalize terminal.stepOn writer prompted received = on at stepped same later ⊢
      obtain ⟨page', after, status⟩ := on
      cases status with
      | running => exact ih (mirror.tick (stepped rfl)) (later rfl) same
      | finished => exact ⟨tree, rfl, same⟩
      | failed cause => exact ⟨tree, rfl, same⟩

/-- **A run does the same** without a page. -/
theorem run (mirror : Mirror place related fine) {script : List Received} (isFine : fine terminal)
    (fits : terminal.Fits script) (same : related terminal.session.scene.tree other) :
    ∃ tree, (terminal.elsewhere place other).run script =
        { terminal.run script with terminal := (terminal.run script).terminal.elsewhere place tree } ∧
      related (terminal.run script).terminal.session.scene.tree tree := by
  obtain ⟨tree, sitting, same⟩ := mirror.runOn isFine (fits.on []) same
  have here := terminal.runOn_sound [] script
  have there := (terminal.elsewhere place other).runOn_sound [] script
  rw [sitting] at there
  rw [here.terminal] at same there
  refine ⟨tree, ?_, same⟩
  have screens : ((terminal.elsewhere place other).run script).screen = (terminal.run script).screen :=
    Text.encode_inj.mp (List.append_cancel_left (there.bytes.symm.trans here.bytes))
  have terminals := there.terminal
  have failures := there.failure.symm.trans here.failure
  generalize (terminal.elsewhere place other).run script = other at *
  obtain ⟨left, screen, failure⟩ := other
  dsimp only at *
  rw [← terminals, screens, failures]

end Mirror

end Terminal

end ConfinedShell
