import ConfinedShell.Proofs.Pages

/-!
# Steps whose writes break off

A write that breaks off stops the run, or it ends the editor and the run goes on. Either way the files are what the step
leaves without a page (`Terminal.Follows`): nothing is written to a file because of a page. And as long as the terminal
takes more, it is the terminal that the step leaves without a page, or that one without its editor
(`Terminal.stepOn_follows`).
-/

set_option autoImplicit false

namespace ConfinedShell

namespace Terminal

variable {terminal : Terminal}

/-! ## Breaking off what comes of a line -/

theorem sameFiles_of_mem_printWrites {write : Written × Terminal} (mem : write ∈ terminal.printWrites) :
    SameFiles terminal write.2 := by
  rw [printWrites, List.mem_append, List.mem_map, List.mem_singleton] at mem
  rcases mem with ⟨line, -, rfl⟩ | rfl
  · exact .refl terminal
  · exact sameFiles_printNew terminal

theorem sameFiles_waitedUntil (terminal : Terminal) (due : Moment) : SameFiles terminal (terminal.waitedUntil due) :=
  ⟨rfl, rfl, rfl, rfl, rfl⟩

theorem sameFiles_of_mem_waitWrites {rounds : Nat} {write : Written × Terminal}
    (mem : write ∈ waitWrites rounds terminal) : SameFiles terminal write.2 := by
  induction rounds generalizing terminal with
  | zero => cases mem
  | succ rounds ih =>
    rw [waitWrites] at mem
    split at mem
    · cases mem
    · next due next =>
      have waited := sameFiles_waitedUntil terminal due
      rcases List.mem_append.mp mem with printed | later
      · exact waited.trans (sameFiles_of_mem_printWrites printed)
      · exact (waited.trans (sameFiles_printNew _)).trans (ih later)

theorem sameFiles_of_mem_missionWrites {write : Written × Terminal} (mem : write ∈ terminal.missionWrites) :
    SameFiles terminal write.2 := by
  obtain ⟨message, -, rfl⟩ := List.mem_map.mp mem
  exact sameFiles_tellMissions terminal

/-- Wherever the writes of what comes of a line break off, the files at hand are those that the line has left. -/
theorem sameFiles_of_mem_presentWrites {session : Session Listener} {line : String} {write : Written × Terminal}
    (mem : write ∈ terminal.presentWrites session line) : SameFiles { terminal with session } write.2 := by
  have counted (echoed : Bool) : SameFiles { terminal with session } (terminal.counted session echoed) :=
    ⟨rfl, rfl, rfl, rfl, rfl⟩
  simp only [presentWrites, List.mem_append] at mem
  rcases mem with ((cleared | printed) | later) | told
  · split at cleared
    · rw [List.mem_singleton] at cleared
      rw [cleared]
      exact ⟨rfl, rfl, rfl, rfl, rfl⟩
    · cases cleared
  · exact (counted _).trans (sameFiles_of_mem_printWrites printed)
  · exact ((counted _).trans (sameFiles_printNew _)).trans (sameFiles_of_mem_waitWrites later)
  · exact (((counted _).trans (sameFiles_printNew _)).trans (sameFiles_wait _)).trans
      (sameFiles_of_mem_missionWrites told)

/-! ## Following a step -/

/-- **A terminal follows a step** when it has the files that the step leaves, and is the terminal that the step leaves
unless it has shut its editor or has been stopped. -/
structure Follows (plain : Terminal) (on : Page × Terminal × Status) : Prop where
  sandbox : on.2.1.session.sandbox = plain.session.sandbox
  scene : on.2.1.session.scene = plain.session.scene
  same : (∀ stop, on.2.2 ≠ .failed stop) → on.2.1 = plain ∨ on.2.1 = plain.shut

theorem Follows.of_eq {plain : Terminal} {on : Page × Terminal × Status} (same : on.2.1 = plain) : Follows plain on :=
  ⟨same ▸ rfl, same ▸ rfl, fun _ => .inl same⟩

theorem Follows.of_shut {plain : Terminal} {on : Page × Terminal × Status} (same : on.2.1 = plain.shut) :
    Follows plain on :=
  ⟨same ▸ rfl, same ▸ rfl, fun _ => .inr same⟩

/-- The editor that opens on a page is the one that opens without one, or it is shut. -/
theorem openEditorOn_follows (writer : Writer) (page : Page) (asked : Terminal) :
    Follows asked.openEditor.1 (asked.openEditorOn writer page) := by
  unfold openEditorOn openEditor
  cases asked.session.takeEditorRequest with
  | mk request session =>
    cases request with
    | none => exact .of_eq rfl
    | some path =>
      dsimp only
      cases Editor.openOn path session.scene.tree with
      | error cause => exact .of_shut (failEditor_shut writer page _ cause)
      | ok editor =>
        dsimp only
        cases page.put writer (.other editor.greeting) with
        | mk put broke =>
          cases broke with
          | none => exact .of_eq rfl
          | some cause => exact .of_shut (failEditor_shut writer put _ (.writing cause))

/-- What an open editor does on a page follows what it does without one. -/
theorem stepEditorOn_follows (writer : Writer) (page : Page) (terminal : Terminal) (editor : Editor)
    (received : Received) :
    Follows (terminal.stepEditor editor received).1 (terminal.stepEditorOn writer page editor received) := by
  unfold stepEditorOn stepEditor Editor.stepOn
  dsimp only
  cases editor.step terminal.session.scene.tree received terminal.session.trouble with
  | goesOn next shown =>
    dsimp only
    cases page.put writer (.other shown) with
    | mk put broke =>
      cases broke with
      | none => exact .of_eq rfl
      | some cause => exact .of_shut (failEditor_shut writer put _ (.writing cause))
  | ends outcome after shown =>
    cases outcome with
    | discarded => exact .of_eq rfl
    | failed cause => exact .of_shut (failEditor_shut writer page _ cause)
    | saved =>
      dsimp only
      cases page.put writer (.other shown) with
      | mk put broke =>
        cases broke with
        | none => exact .of_eq rfl
        | some cause => exact .of_shut (failEditor_shut writer put _ (.writing cause))

theorem concludeOn_follows (writer : Writer) (page : Page) (terminal : Terminal) (session : Session Listener)
    (line : String) : Follows (terminal.conclude session line).1 (terminal.concludeOn writer page session line) := by
  obtain ⟨-, sandbox, scene, -⟩ := conclude_leaves terminal session line
  have concluded : (terminal.conclude session line).1 = (terminal.present session line).1.openEditor.1 := rfl
  unfold concludeOn
  rcases page.putAll_cases writer (terminal.presentWrites session line) with
    whole | ⟨done, piece, left, rest, met, writes, -, broke⟩
  · rw [whole, concluded]
    exact openEditorOn_follows writer _ _
  · have mem : (piece, left) ∈ terminal.presentWrites session line := by simp [writes]
    have same := sameFiles_of_mem_presentWrites mem
    rw [broke]
    exact ⟨same.sandbox.trans sandbox.symm, same.scene.trans scene.symm, fun runs => absurd rfl (runs _)⟩

/-- A line that is run on a page leaves the files that its command leaves. -/
theorem scene_runLineOn (writer : Writer) (page : Page) (terminal : Terminal) (line : String) :
    (terminal.runLineOn writer page line).2.1.session.scene = (terminal.session.process terminal.now line).scene := by
  unfold runLineOn Session.process
  cases terminal.session.handle terminal.now line with
  | mk session broke =>
    cases broke with
    | true => rfl
    | false =>
      obtain ⟨-, -, scene, -⟩ := conclude_leaves terminal.forgotten session line
      exact (concludeOn_follows writer page terminal.forgotten session line).scene.trans scene

/-- **A step on a page follows the step**, whatever becomes of its writes. -/
theorem stepOn_follows (writer : Writer) (page : Page) (terminal : Terminal) (received : Received) :
    Follows (terminal.step received).1 (terminal.stepOn writer page received) := by
  unfold stepOn step
  cases terminal.editor with
  | some editor => exact stepEditorOn_follows writer page terminal editor received
  | none =>
    cases received with
    | malformed => exact .of_eq rfl
    | line text =>
      dsimp only
      unfold stepPromptOn stepPrompt
      cases Arrow.parse? text with
      | some arrows =>
        dsimp only
        cases page.put writer (.other "\n") with
        | mk put broke => cases broke <;> exact .of_eq rfl
      | none =>
        dsimp only
        unfold runLineOn runLine
        cases terminal.session.handle terminal.now (terminal.lineFor text) with
        | mk session broke =>
          cases broke with
          | true => exact .of_eq rfl
          | false => exact concludeOn_follows writer page terminal.forgotten session (terminal.lineFor text)

end Terminal

end ConfinedShell
