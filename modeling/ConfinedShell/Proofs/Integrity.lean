import ConfinedShell.Proofs.Interruptions
import ConfinedShell.Proofs.Processing

/-!
# A run keeps the outside

A terminal is **sound** (`Terminal.Sound`) when its session has the commands of the shell, its sandbox
stands, and the path of an open editor is secure. A sound terminal takes a line that fits and is sound
again, and nothing outside of the root has changed (`Terminal.step_keeps`). A write to the page that breaks off makes no
difference to that, so a whole run keeps the outside on whatever page (`Terminal.run_keeps_outside`). The path of the
editor stays secure because it is opened at the end of the very line that has asked for it, and while it is open no
command runs.
-/

set_option autoImplicit false

namespace ConfinedShell

namespace Terminal

/-! ## One step -/

/-- **A sound terminal.** -/
structure Sound (terminal : Terminal) : Prop where
  builtin : ∃ suffix, terminal.session.registry = ⟨Commands.builtin suffix⟩
  stands : terminal.session.sandbox.Stands terminal.session.scene.tree
  secure : ∀ editor, terminal.editor = some editor →
    editor.path.Secure terminal.session.sandbox terminal.session.scene.tree
  unasked : terminal.session.editorRequest = none

/-- What a sound terminal keeps: it stays sound, over the same sandbox, which keeps everything. -/
structure Keeps (before after : Terminal) : Prop where
  sound : after.Sound
  sandbox : after.session.sandbox = before.session.sandbox
  kept : before.session.sandbox.Keeps before.session.scene.tree after.session.scene.tree

variable {terminal : Terminal}

/-- A terminal with the same files at hand is as sound. -/
theorem Sound.keeps_of_sameFiles {after : Terminal} (sound : terminal.Sound)
    (same : SameFiles terminal after) : terminal.Keeps after := by
  have sound' : after.Sound := by
    refine ⟨same.registry ▸ sound.builtin, ?_, fun editor opened => ?_, ?_⟩
    · rw [same.sandbox, same.scene]
      exact sound.stands
    · rw [same.sandbox, same.scene]
      exact sound.secure editor (same.editor ▸ opened)
    · rw [same.editorRequest]
      exact sound.unasked
  refine ⟨sound', same.sandbox, ?_⟩
  rw [same.scene]
  exact .refl sound.stands

theorem Sound.tick (sound : terminal.Sound) : terminal.tick.Sound :=
  (sound.keeps_of_sameFiles (sameFiles_tick terminal)).sound

/-- The editor writes to its own path alone, which is secure. -/
theorem Sound.keeps_stepEditor (sound : terminal.Sound) {editor : Editor}
    (opened : terminal.editor = some editor) (received : Received) :
    terminal.Keeps (terminal.stepEditor editor received).1 := by
  have secure := sound.secure editor opened
  unfold stepEditor
  dsimp only
  split
  · next other shown stepped =>
    refine ⟨⟨sound.builtin, sound.stands, fun open' is => ?_, sound.unasked⟩, rfl, .refl sound.stands⟩
    cases is
    rw [Editor.path_of_goesOn stepped]
    exact secure
  · next outcome tree shown stepped =>
    have kept : terminal.session.sandbox.Keeps terminal.session.scene.tree tree := by
      rcases Editor.tree_of_ends stepped with rfl | ⟨bytes, written⟩
      · exact .refl sound.stands
      · exact Resolved.write_keeps sound.stands (secure.confined sound.stands) written
    exact ⟨⟨sound.builtin, kept.stands, (fun _ is => nomatch is), sound.unasked⟩, rfl, kept⟩

/-- What a line leaves in a session: an editor is asked for by a secure path alone. -/
structure Leaves (terminal : Terminal) (session : Session Listener) : Prop where
  registry : session.registry = terminal.session.registry
  sandbox : session.sandbox = terminal.session.sandbox
  kept : terminal.session.sandbox.Keeps terminal.session.scene.tree session.scene.tree
  secure : ∀ path, session.editorRequest = some path → path.Secure session.sandbox session.scene.tree

/-- A path that an editor is asked for by a line that fits is secure then, because the line itself has had it
checked. -/
theorem Sound.leaves (sound : terminal.Sound) {line : String} (fits : terminal.session.Fits line) :
    terminal.Leaves (terminal.session.process terminal.now line) := by
  obtain ⟨suffix, builtin⟩ := sound.builtin
  obtain ⟨registry, sandbox, -⟩ := terminal.session.process_leaves terminal.now line
  obtain ⟨kept, asked⟩ := Session.process_keeps builtin sound.stands fits terminal.now
  refine ⟨registry, sandbox, kept, fun path requested => ?_⟩
  rw [sandbox]
  refine (asked path requested).resolve_right fun earlier => ?_
  rw [sound.unasked] at earlier
  cases earlier

/-- The editor opens right after the line that has asked for it, and the terminal is sound again. -/
theorem Leaves.keeps_conclude {session : Session Listener} (leaves : terminal.Leaves session) (sound : terminal.Sound)
    (closed : terminal.editor = none) (line : String) :
    terminal.Keeps (terminal.forgotten.conclude session line).1 := by
  obtain ⟨registry, sandbox, scene, unasked⟩ := conclude_leaves terminal.forgotten session line
  refine ⟨⟨?_, ?_, fun editor is => ?_, unasked⟩, sandbox.trans leaves.sandbox, ?_⟩
  · rw [registry, leaves.registry]
    exact sound.builtin
  · rw [sandbox, scene, leaves.sandbox]
    exact leaves.kept.stands
  · rw [sandbox, scene]
    rcases editor_conclude is with before | requested
    · cases closed.symm.trans before
    · exact leaves.secure _ requested
  · rw [scene]
    exact leaves.kept

/-- A line of which the call breaks down keeps everything outside as well. -/
theorem Sound.keeps_of_broke (sound : terminal.Sound) (closed : terminal.editor = none) {line : String}
    (fits : terminal.session.Fits line) (broke : (terminal.session.handle terminal.now line).2 = true) :
    terminal.Keeps { terminal.forgotten with session := terminal.session.process terminal.now line } := by
  obtain ⟨registry, sandbox, kept, -⟩ := sound.leaves fits
  have unasked := (Session.editorRequest_of_broke broke).trans sound.unasked
  generalize terminal.session.process terminal.now line = processed at registry sandbox kept unasked ⊢
  refine ⟨⟨registry.symm ▸ sound.builtin, ?_, fun editor opened => ?_, unasked⟩, sandbox, kept⟩
  · exact sandbox.symm ▸ kept.stands
  · cases closed.symm.trans opened

theorem Sound.keeps_stepPrompt (sound : terminal.Sound) (closed : terminal.editor = none)
    {text : String} (fits : ∀ line ∈ terminal.submitted? (.line text), terminal.session.Fits line) :
    terminal.Keeps (terminal.stepPrompt text).1 := by
  cases typed : Arrow.parse? text with
  | some arrows =>
    have same : SameFiles terminal (terminal.applyArrows arrows) := ⟨rfl, rfl, rfl, rfl, rfl⟩
    rw [stepPrompt, typed]
    exact sound.keeps_of_sameFiles same
  | none =>
    obtain ⟨line, submits⟩ := exists_submitted closed typed
    rw [stepPrompt_of_submitted submits]
    cases broke : (terminal.session.handle terminal.now line).2 with
    | true =>
      rw [runLine_of_broke broke]
      exact sound.keeps_of_broke closed (fits line submits) broke
    | false =>
      rw [runLine_of_returned broke]
      exact (sound.leaves (fits line submits)).keeps_conclude sound closed line

/-- **A step keeps everything outside**, when the line that it submits fits. -/
theorem step_keeps (sound : terminal.Sound) {received : Received}
    (fits : ∀ line ∈ terminal.submitted? received, terminal.session.Fits line) :
    terminal.Keeps (terminal.step received).1 := by
  cases opened : terminal.editor with
  | some editor =>
    rw [step_of_open opened]
    exact sound.keeps_stepEditor opened received
  | none =>
    cases received with
    | line text =>
      rw [step_of_closed opened]
      exact sound.keeps_stepPrompt opened fits
    | malformed =>
      rw [step_malformed opened]
      exact sound.keeps_of_sameFiles (.refl terminal)

/-! ## A run -/

/-- **A script fits** when each line that is submitted fits at its turn. What is received after the run
has ended does not matter. -/
def Fits (terminal : Terminal) : List Received → Prop
  | [] => True
  | received :: rest =>
    (∀ line ∈ terminal.submitted? received, terminal.session.Fits line) ∧
      ((terminal.step received).2.2 = .running → (terminal.step received).1.tick.Fits rest)

instance decidableFits : (terminal : Terminal) → (script : List Received) →
    Decidable (terminal.Fits script)
  | _, [] => .isTrue trivial
  | terminal, received :: rest =>
    have := decidableFits (terminal.step received).1.tick rest
    inferInstanceAs (Decidable (_ ∧ _))

/-- **A script fits on a page** when each line that is submitted fits at its turn. What is received after the run has
ended, or has been cut off, does not matter. -/
def FitsOn (writer : Writer) (page : Page) (terminal : Terminal) : List Received → Prop
  | [] => True
  | received :: rest =>
    let awaited := terminal.awaitOn writer page
    let on := terminal.stepOn writer awaited.1 received
    awaited.2 = none →
      (∀ line ∈ terminal.submitted? received, terminal.session.Fits line) ∧
        (on.2.2 = .running → on.2.1.tick.FitsOn writer on.1 rest)

instance decidableFitsOn (writer : Writer) : (page : Page) → (terminal : Terminal) → (script : List Received) →
    Decidable (terminal.FitsOn writer page script)
  | _, _, [] => .isTrue trivial
  | page, terminal, received :: rest =>
    let on := terminal.stepOn writer (terminal.awaitOn writer page).1 received
    have := decidableFitsOn writer on.1 on.2.1.tick rest
    inferInstanceAs (Decidable (_ → _ ∧ _))

/-- A script that fits does so on a page where no write breaks off. -/
theorem Fits.on {script : List Received} (fits : terminal.Fits script) (page : Page) :
    terminal.FitsOn Writer.sound page script := by
  induction script generalizing terminal page with
  | nil => trivial
  | cons received rest ih =>
    obtain ⟨here, later⟩ := fits
    refine fun _ => ⟨here, fun runs => ?_⟩
    obtain ⟨left, status, -⟩ := terminal.stepOn_sound (terminal.awaitOn Writer.sound page).1 received
    rw [left]
    exact ih (later (status.symm.trans runs)) _

/-- A sound terminal is sound without its editor. -/
theorem Sound.shut (sound : terminal.Sound) : terminal.shut.Sound :=
  ⟨sound.builtin, sound.stands, (fun _ is => nomatch is), sound.unasked⟩

/-- What is kept by a step is kept by one that follows it. -/
theorem Keeps.of_follows {after : Terminal} {on : Page × Terminal × Status} (kept : terminal.Keeps after)
    (follows : Follows after on) :
    terminal.session.sandbox.Keeps terminal.session.scene.tree on.2.1.session.scene.tree ∧
      ((∀ stop, on.2.2 ≠ .failed stop) → terminal.Keeps on.2.1) := by
  refine ⟨follows.scene ▸ kept.kept, fun runs => ?_⟩
  rcases follows.same runs with same | same
  · exact same ▸ kept
  · exact same ▸ ⟨kept.sound.shut, kept.sandbox, kept.kept⟩

/-- **A run keeps everything outside** of the root of a sound terminal, on any page. -/
theorem runOn_keeps {writer : Writer} {page : Page} {script : List Received} (sound : terminal.Sound)
    (fits : terminal.FitsOn writer page script) :
    terminal.session.sandbox.Keeps terminal.session.scene.tree
      (terminal.runOn writer page script).terminal.session.scene.tree := by
  induction script generalizing terminal page with
  | nil =>
    unfold runOn
    cases terminal.awaitOn writer page with
    | mk awaited broke =>
      cases broke with
      | some cause => exact .refl sound.stands
      | none => exact .refl sound.stands
  | cons received rest ih =>
    unfold FitsOn at fits
    unfold runOn
    dsimp only at fits
    generalize terminal.awaitOn writer page = awaited at fits ⊢
    obtain ⟨prompted, broke⟩ := awaited
    cases broke with
    | some cause => exact .refl sound.stands
    | none =>
      obtain ⟨here, later⟩ := fits rfl
      obtain ⟨kept, goesOn⟩ := (step_keeps sound here).of_follows (stepOn_follows writer prompted terminal received)
      dsimp only at later ⊢
      generalize terminal.stepOn writer prompted received = on at kept goesOn later ⊢
      obtain ⟨page', after, status⟩ := on
      cases status with
      | running =>
        obtain ⟨sound', sandbox, -⟩ := goesOn fun _ told => by cases told
        have rest := ih sound'.tick (later rfl)
        have same : after.tick.session.sandbox = terminal.session.sandbox := sandbox
        rw [same] at rest
        exact kept.trans rest
      | finished => exact kept
      | failed stop => exact kept

/-- **A run of the shell changes nothing outside of the sandbox**, whatever the files are at first, links included,
whatever is typed, and whatever the storage does. So it is on any page, wherever its writes break off. -/
theorem run_keeps_outside {sandbox : Sandbox} {tree : FileTree} {suffix hostname prompt : String}
    {clock : Clock} {now : Moment} {storage : Nat → Storage} {lags : Nat → Nat} {script : List Received}
    (stands : sandbox.Stands tree) :
    let terminal := start (Session.start ⟨Commands.builtin suffix⟩ sandbox clock tree Listener.start storage)
      hostname prompt now lags
    (terminal.Fits script →
        FileTree.SameOutside sandbox.root tree (terminal.run script).terminal.session.scene.tree) ∧
      ∀ writer page, terminal.FitsOn writer page script →
        FileTree.SameOutside sandbox.root tree (terminal.runOn writer page script).terminal.session.scene.tree := by
  intro terminal
  have sound : terminal.Sound := ⟨⟨suffix, rfl⟩, stands, (fun _ is => nomatch is), rfl⟩
  refine ⟨fun fits => ?_, fun writer page fits => (runOn_keeps sound fits).outside⟩
  have kept := runOn_keeps sound (fits.on [])
  rw [(terminal.runOn_sound [] script).terminal] at kept
  exact kept.outside

end Terminal

/-! ## A link that is moved -/

namespace MovedLink

/-- Two directories in the root. In the one is a directory called `x`, and in the other one a link of
that name, which leads out of the root to where a secret is kept. -/
def tree (secret : String) : FileTree :=
  .directory
    [("outside", .directory [("secret.txt", .file (Text.encode secret))]),
     ("root", .directory
       [("a", .directory [("x", .directory [])]), ("b", .directory [("x", .link "../../outside")])])]

/-- The sandbox over `/root`. -/
def sandbox : Sandbox := ⟨["root"]⟩

theorem stands (secret : String) : sandbox.Stands (tree secret) :=
  ⟨by simp [sandbox, PlainName], _, rfl⟩

/-- A session in the sandbox. -/
def session (secret : String) : Session Listener :=
  Session.start ⟨Commands.builtin ""⟩ sandbox (Clock.fixed ⟨2024, 1, 1, 0, 0, 0⟩ 0) (tree secret)
    Listener.start

/-- The terminal over the session. -/
def terminal (secret : String) : Terminal :=
  .start (session secret) "host" "$ " 0

/-- Moves the link along with its directory, tries to go through it, and edits a file. -/
def script : List Received :=
  [.line "mv a/x c", .line "mv b a/d", .line "cat a/d/x/secret.txt", .line "nano c/note",
   .line "hello", .line ":wq"]

end MovedLink

/-- A script that moves a link and edits a file is one of those that keep the outside. So it is when the editor cannot
greet, and its lines go to the prompt. -/
theorem Terminal.run_keeps_outside_of_moved_link :
    ((MovedLink.terminal "top secret").Fits MovedLink.script ∧
        FileTree.SameOutside MovedLink.sandbox.root (MovedLink.tree "top secret")
          ((MovedLink.terminal "top secret").run MovedLink.script).terminal.session.scene.tree) ∧
      (MovedLink.terminal "top secret").FitsOn (.breaking 11) [] MovedLink.script ∧
        FileTree.SameOutside MovedLink.sandbox.root (MovedLink.tree "top secret")
          ((MovedLink.terminal "top secret").runOn (.breaking 11) [] MovedLink.script).terminal.session.scene.tree := by
  have fits : (MovedLink.terminal "top secret").Fits MovedLink.script := by decide +kernel
  have fitsOn : (MovedLink.terminal "top secret").FitsOn (.breaking 11) [] MovedLink.script := by decide +kernel
  unfold MovedLink.terminal MovedLink.session at fits fitsOn ⊢
  obtain ⟨kept, keptOn⟩ := Terminal.run_keeps_outside (MovedLink.stands "top secret")
  exact ⟨⟨fits, kept fits⟩, fitsOn, keptOn _ _ fitsOn⟩

end ConfinedShell
