import ConfinedShell.Proofs.Editing
import ConfinedShell.Terminal

/-!
# What a step is made of

The terminal hands a line to its session, shows what comes of it, and opens the editor when one was asked for. Only the
session and the editor bear on files: showing leaves the **files at hand** as they are (`Terminal.SameFiles`), and
opening the editor takes the request for it away and does nothing else to the session. So what a line leaves in the
session is what the step leaves (`Terminal.conclude_leaves`).
-/

set_option autoImplicit false

namespace ConfinedShell

namespace Terminal

/-! ## What bears on files -/

/-- Two terminals have the same **files at hand**: the same commands, sandbox, scene and request for an
editor, and the same editor. They may differ in what they show. -/
structure SameFiles (before after : Terminal) : Prop where
  registry : after.session.registry = before.session.registry
  sandbox : after.session.sandbox = before.session.sandbox
  scene : after.session.scene = before.session.scene
  editorRequest : after.session.editorRequest = before.session.editorRequest
  editor : after.editor = before.editor

theorem SameFiles.refl (terminal : Terminal) : SameFiles terminal terminal :=
  ⟨rfl, rfl, rfl, rfl, rfl⟩

theorem SameFiles.trans {first second third : Terminal} (one : SameFiles first second)
    (two : SameFiles second third) : SameFiles first third :=
  ⟨two.registry.trans one.registry, two.sandbox.trans one.sandbox, two.scene.trans one.scene,
    two.editorRequest.trans one.editorRequest, two.editor.trans one.editor⟩

theorem sameFiles_printNew (terminal : Terminal) : SameFiles terminal terminal.printNew.1 :=
  ⟨rfl, rfl, rfl, rfl, rfl⟩

theorem sameFiles_tellMissions (terminal : Terminal) : SameFiles terminal terminal.tellMissions.1 :=
  ⟨rfl, rfl, rfl, rfl, rfl⟩

theorem sameFiles_tick (terminal : Terminal) : SameFiles terminal terminal.tick :=
  ⟨rfl, rfl, rfl, rfl, rfl⟩

theorem sameFiles_waitRounds (rounds : Nat) (terminal : Terminal) :
    SameFiles terminal (waitRounds rounds terminal).1 := by
  induction rounds generalizing terminal with
  | zero => exact .refl terminal
  | succ rounds ih =>
    rw [waitRounds]
    split
    · exact .refl terminal
    · refine SameFiles.trans ?_ (ih _)
      refine SameFiles.trans ?_ (sameFiles_printNew _)
      exact ⟨rfl, rfl, rfl, rfl, rfl⟩

theorem sameFiles_wait (terminal : Terminal) : SameFiles terminal terminal.wait.1 :=
  sameFiles_waitRounds _ terminal

/-- What comes of a line is shown without bearing on files. -/
theorem sameFiles_present (terminal : Terminal) (session : Session Listener) (line : String) :
    SameFiles { terminal with session } (terminal.present session line).1 := by
  unfold present
  dsimp only
  refine SameFiles.trans ?_ (sameFiles_tellMissions _)
  refine SameFiles.trans ?_ (sameFiles_wait _)
  refine SameFiles.trans ?_ (sameFiles_printNew _)
  exact ⟨rfl, rfl, rfl, rfl, rfl⟩

/-- The line that is submitted when `received` is taken: none while an editor is open, and none for
arrows or for what is not text. -/
def submitted? (terminal : Terminal) : Received → Option String
  | .malformed => none
  | .line text =>
    if terminal.editor.isSome || (Arrow.parse? text).isSome then none else some (terminal.lineFor text)

/-- The prompt submits a line unless it is one of arrows. -/
theorem exists_submitted {terminal : Terminal} {text : String} (closed : terminal.editor = none)
    (typed : Arrow.parse? text = none) : ∃ line, terminal.submitted? (.line text) = some line := by
  rw [submitted?, closed, typed]
  exact ⟨_, rfl⟩

/-- A line that the prompt submits is run. -/
theorem stepPrompt_of_submitted {terminal : Terminal} {text line : String}
    (submits : terminal.submitted? (.line text) = some line) : terminal.stepPrompt text = terminal.runLine line := by
  rw [submitted?] at submits
  split at submits
  · cases submits
  next typed =>
  have parsed : Arrow.parse? text = none := by
    cases parsed : Arrow.parse? text with
    | none => rfl
    | some arrows => simp [parsed] at typed
  cases submits
  rw [stepPrompt, parsed]

/-- A line whose call breaks down stops the run, -/
theorem runLine_of_broke {terminal : Terminal} {line : String}
    (broke : (terminal.session.handle terminal.now line).2 = true) :
    terminal.runLine line =
      ({ terminal.forgotten with session := terminal.session.process terminal.now line }, "", .failed .breakdown) := by
  unfold runLine Session.process
  generalize terminal.session.handle terminal.now line = handled at broke ⊢
  obtain ⟨session, told⟩ := handled
  obtain rfl : told = true := broke
  rfl

/-- and what comes of any other line is shown. -/
theorem runLine_of_returned {terminal : Terminal} {line : String}
    (returned : (terminal.session.handle terminal.now line).2 = false) :
    terminal.runLine line = terminal.forgotten.conclude (terminal.session.process terminal.now line) line := by
  unfold runLine Session.process
  generalize terminal.session.handle terminal.now line = handled at returned ⊢
  obtain ⟨session, told⟩ := handled
  obtain rfl : told = false := returned
  rfl

/-! ## Opening the editor -/

variable {terminal : Terminal}

/-- Opening the editor takes the request away, and does nothing else to the session. -/
theorem session_openEditor (asked : Terminal) :
    asked.openEditor.1.session = { asked.session with editorRequest := none } := by
  unfold openEditor Session.takeEditorRequest
  cases asked.session.editorRequest with
  | none => rfl
  | some path =>
    dsimp only
    split <;> rfl

/-- An editor that is open after that was so before, or it is one for the path that was asked for. -/
theorem editor_openEditor {asked : Terminal} {editor : Editor}
    (opened : asked.openEditor.1.editor = some editor) :
    asked.editor = some editor ∨ asked.session.editorRequest = some editor.path := by
  unfold openEditor Session.takeEditorRequest at opened
  cases asking : asked.session.editorRequest with
  | none =>
    rw [asking] at opened
    exact .inl opened
  | some path =>
    rw [asking] at opened
    dsimp only at opened
    split at opened
    · next other opens =>
      cases opened
      obtain ⟨_, opens', same⟩ := Editor.exists_openOn path asked.session.scene.tree
      rw [opens'] at opens
      cases opens
      rw [same]
      exact .inr rfl
    · exact .inl opened

/-- What comes of a line is shown without bearing on files, but for the request that the editor takes. -/
theorem conclude_leaves (terminal : Terminal) (session : Session Listener) (line : String) :
    let after := (terminal.conclude session line).1
    after.session.registry = session.registry ∧ after.session.sandbox = session.sandbox ∧
      after.session.scene = session.scene ∧ after.session.editorRequest = none := by
  have same := sameFiles_present terminal session line
  have concluded : (terminal.conclude session line).1 = (terminal.present session line).1.openEditor.1 := rfl
  dsimp only
  rw [concluded]
  generalize (terminal.present session line).1 = after at same ⊢
  rw [session_openEditor]
  exact ⟨same.registry, same.sandbox, same.scene, rfl⟩

/-- An editor that is open then was so before, or it is one for the path that the line has asked for. -/
theorem editor_conclude {session : Session Listener} {line : String} {editor : Editor}
    (opened : (terminal.conclude session line).1.editor = some editor) :
    terminal.editor = some editor ∨ session.editorRequest = some editor.path := by
  have same := sameFiles_present terminal session line
  have concluded : (terminal.conclude session line).1 = (terminal.present session line).1.openEditor.1 := rfl
  rw [concluded] at opened
  rw [← same.editor]
  have requested := editor_openEditor opened
  rwa [same.editorRequest] at requested

/-! ## One step -/

/-- While an editor is open, it takes what is received. -/
theorem step_of_open {editor : Editor} (opened : terminal.editor = some editor) (received : Received) :
    terminal.step received = terminal.stepEditor editor received := by
  unfold step
  rw [opened]

/-- Without an editor the prompt takes a line. -/
theorem step_of_closed (closed : terminal.editor = none) (text : String) :
    terminal.step (.line text) = terminal.stepPrompt text := by
  unfold step
  rw [closed]

/-- Without an editor, what is not text ends the run. -/
theorem step_malformed (closed : terminal.editor = none) :
    terminal.step .malformed = (terminal, "", .failed (.reading .notText)) := by
  unfold step
  rw [closed]

end Terminal

end ConfinedShell
