import ConfinedShell.Proofs.Secrecy

/-!
# A path that waits for the editor

A session does not open an editor; it keeps the path that was asked for until somebody takes it. The path
was checked when it was asked for, and it is not checked again. What the check has found lasts as long as
no link is put in the way: no command but `mv` makes a link where there was none (`Operation.noNewLinks`),
so a path that waits stays secure unless something is moved (`Session.secure_of_unmoved`).

Whether an editor on a waiting path is confined depends on one thing alone, the location at which the file
would be opened for writing (`Resolved.LeadsInside`). If that lies in the root, the editor changes nothing
outside and shows nothing from there; if it does not, some keys change a file outside
(`Session.edit_parked_confined`). A move can bring that about (`Session.parked_path_leads_out`).
-/

set_option autoImplicit false

namespace ConfinedShell

open FileTree (Alike SameOutside)

/-! ## Links stay where they are -/

namespace FileTree

/-- Every link in the tree after was there before. -/
def NoNewLinks (before after : FileTree) : Prop :=
  ∀ location target, after.kindAt? location = some (.link target) →
    before.kindAt? location = some (.link target)

variable {tree : FileTree}

/-- Setting a file or an empty directory makes no link. -/
theorem NoNewLinks.put {location : Location} {new : FileTree}
    (noLink : ∀ rest target, new.kindAt? rest ≠ some (.link target)) :
    NoNewLinks tree (tree.put location new) := by
  intro other target isLink
  rcases kindAt?_put tree new location other with kept | ⟨rest, -, set⟩
  · rwa [kept] at isLink
  · rw [set] at isLink
    exact absurd isLink (noLink rest target)

/-- Dropping an entry makes no link. -/
theorem NoNewLinks.remove {location : Location} : NoNewLinks tree (tree.remove location) := by
  intro other target isLink
  rcases kindAt?_remove tree location other with kept | ⟨-, gone⟩
  · rwa [kept] at isLink
  · rw [gone] at isLink
    cases isLink

/-- A file holds no links. -/
theorem file_noLink (bytes : Text.Bytes) (rest : Location) (target : String) :
    (file bytes).kindAt? rest ≠ some (.link target) := by
  cases rest <;> simp [kindAt?, kind]

/-- An empty directory holds no links. -/
theorem directory_noLink (rest : Location) (target : String) :
    (directory []).kindAt? rest ≠ some (.link target) := by
  cases rest <;> simp [kindAt?, kind, Entries.find?]

/-- A straight path stays straight while no link is added. -/
theorem Straight.of_noNewLinks {after : FileTree} {path : Location} (straight : tree.Straight path)
    (noNew : NoNewLinks tree after) : after.Straight path := by
  refine ⟨straight.plain, fun way inside taken target isLink => ?_⟩
  have before := noNew way target (kindAt?_eq_link.mpr isLink)
  exact straight.linkFree way inside taken target (kindAt?_eq_link.mp before)

end FileTree

open FileTree (NoNewLinks)

/-- **No operation but a move makes a link** where there was none, whatever paths it is given. -/
theorem Operation.noNewLinks {operation : Operation} {tree after : FileTree}
    (noMove : operation.isMove = false) (performed : operation.perform tree = .ok after) :
    NoNewLinks tree after := by
  cases operation with
  | write path bytes =>
    obtain ⟨location, -, rfl⟩ := map_eq_ok.mp (Resolved.write_eq_ok.mp performed)
    exact .put (FileTree.file_noLink _)
  | createFile path =>
    obtain ⟨location, -, rfl⟩ := FileTree.exists_of_touchFile (Resolved.told_eq_ok.mp performed)
    exact .put (FileTree.file_noLink _)
  | createDirectory path =>
    obtain ⟨holder, name, -, rfl⟩ :=
      FileTree.exists_of_makeDirectory (Resolved.told_eq_ok.mp performed)
    exact .put FileTree.directory_noLink
  | removeDirectory path =>
    have removed : path.removeDirectory tree = .ok after := performed
    rw [Resolved.removeDirectory] at removed
    split at removed
    · cases removed
    obtain ⟨location, -, -, -, rfl⟩ :=
      FileTree.exists_of_removeDirectory (Resolved.told_eq_ok.mp removed)
    exact .remove
  | removeFile path =>
    obtain ⟨location, -, -, rfl⟩ :=
      FileTree.exists_of_removeFile (Resolved.told_eq_ok.mp performed)
    exact .remove
  | copy source destination =>
    obtain ⟨⟨count, _⟩, copied, rfl⟩ := map_eq_ok.mp performed
    obtain ⟨-, bytes, -, written, -⟩ := Resolved.copyTo_eq_ok.mp copied
    obtain ⟨location, -, rfl⟩ := map_eq_ok.mp (Resolved.write_eq_ok.mp written)
    exact .put (FileTree.file_noLink _)
  | move source destination => cases noMove

/-! ## Lines -/

namespace Session

variable {σ : Type}

/-- Processes lines one after the other, each at its moment. -/
def processAll (session : Session σ) : List (Moment × String) → Session σ
  | [] => session
  | (now, line) :: rest => (session.process now line).processAll rest

/-- Whether each line is fine for the session that processes it. -/
def Throughout (fine : Session σ → String → Prop) (session : Session σ) : List (Moment × String) → Prop
  | [] => True
  | (now, line) :: rest => fine session line ∧ (session.process now line).Throughout fine rest

instance decidableThroughout (fine : Session σ → String → Prop)
    [∀ session line, Decidable (fine session line)] :
    (session : Session σ) → (lines : List (Moment × String)) → Decidable (session.Throughout fine lines)
  | _, [] => .isTrue trivial
  | session, (now, line) :: rest =>
    have := decidableThroughout fine (session.process now line) rest
    inferInstanceAs (Decidable (_ ∧ _))

/-- Whether a line calls the command that moves. -/
def moves (line : String) : Bool :=
  (tokenize (Text.trim line)).any fun call => call.1 = "mv"

/-- A line does not move anything while `path` waits for the editor. -/
def Unmoved (path : Resolved) (session : Session σ) (line : String) : Prop :=
  session.editorRequest = some path → moves line = false

instance (path : Resolved) (session : Session σ) (line : String) : Decidable (Unmoved path session line) :=
  inferInstanceAs (Decidable (_ → _))

variable {session : Session σ}

/-- A line that does not move anything leaves no new link. -/
theorem process_noNewLinks {suffix : String} (builtin : session.registry = ⟨Commands.builtin suffix⟩)
    {line : String} (noMove : moves line = false) (now : Moment) :
    NoNewLinks session.scene.tree (session.process now line).scene.tree := by
  rcases (process_changes builtin now line).1 with same | ⟨operation, -, moving, performed⟩
  · rw [same]
    exact fun _ _ isLink => isLink
  · refine operation.noNewLinks (Bool.eq_false_iff.mpr fun isMove => ?_) performed
    obtain ⟨arguments, tokens⟩ := moving isMove
    rw [moves, tokens] at noMove
    simp at noMove

/-- A path that waits stays secure over a line that does not move, and a path that the line asks for is
secure when the line fits. -/
theorem secure_process {suffix : String} (builtin : session.registry = ⟨Commands.builtin suffix⟩)
    (stands : session.sandbox.Stands session.scene.tree) {line : String} (fits : session.Fits line)
    {path : Resolved} (unmoved : Unmoved path session line)
    (secure : session.editorRequest = some path → path.Secure session.sandbox session.scene.tree)
    (now : Moment) (asked : (session.process now line).editorRequest = some path) :
    path.Secure session.sandbox (session.process now line).scene.tree := by
  obtain ⟨-, asks⟩ := process_keeps builtin stands fits now
  rcases asks path asked with fresh | waiting
  · exact fresh
  · have noNew := process_noNewLinks builtin (unmoved waiting) now
    exact ⟨(secure waiting).inside, (secure waiting).straight.of_noNewLinks noNew⟩

/-- **A path that waits stays secure** over lines that fit and of which none moves while it waits. -/
theorem secure_of_unmoved {suffix : String} {lines : List (Moment × String)} {path : Resolved}
    (builtin : session.registry = ⟨Commands.builtin suffix⟩)
    (stands : session.sandbox.Stands session.scene.tree) (fits : session.Throughout Fits lines)
    (unmoved : session.Throughout (Unmoved path) lines)
    (secure : session.editorRequest = some path → path.Secure session.sandbox session.scene.tree)
    (asked : (session.processAll lines).editorRequest = some path) :
    path.Secure session.sandbox (session.processAll lines).scene.tree := by
  induction lines generalizing session with
  | nil => exact secure asked
  | cons entry rest ih =>
    obtain ⟨now, line⟩ := entry
    obtain ⟨fits, restFits⟩ := fits
    obtain ⟨unmoved, restUnmoved⟩ := unmoved
    obtain ⟨registry, sandbox, -⟩ := session.process_leaves now line
    obtain ⟨kept, -⟩ := process_keeps builtin stands fits now
    have next := secure_process builtin stands fits unmoved secure now
    rw [processAll] at asked ⊢
    rw [← sandbox] at kept next ⊢
    exact ih (registry.trans builtin) kept.stands restFits restUnmoved next asked

/-- **An editor on a path that has waited.** The path leads inside when every line has fitted and none
has moved anything while it waited. And that it leads inside is just what makes the editor confined: then,
and only then, the editor changes nothing outside and shows nothing that depends on contents outside,
whatever its keys are and whatever trouble the storage gives. -/
theorem edit_parked_confined {suffix : String} {lines : List (Moment × String)} {path : Resolved}
    (builtin : session.registry = ⟨Commands.builtin suffix⟩)
    (stands : session.sandbox.Stands session.scene.tree) (unasked : session.editorRequest = none)
    (asked : (session.processAll lines).takeEditorRequest.1 = some path) :
    let tree := (session.processAll lines).takeEditorRequest.2.scene.tree
    (session.Throughout Fits lines → session.Throughout (Unmoved path) lines →
        path.LeadsInside session.sandbox tree) ∧
      (path.LeadsInside session.sandbox tree ↔
        ∀ keys, Editor.Confined session.sandbox tree path keys none) ∧
      (path.LeadsInside session.sandbox tree →
        ∀ keys trouble, Editor.Confined session.sandbox tree path keys trouble) := by
  refine ⟨fun fits unmoved => ?_,
    ⟨fun leads keys => Editor.confined_of_leadsInside leads keys none, Editor.leadsInside_of_confined⟩,
    Editor.confined_of_leadsInside⟩
  have none : session.editorRequest = some path →
      path.Secure session.sandbox session.scene.tree := by
    intro waiting
    rw [unasked] at waiting
    cases waiting
  exact (secure_of_unmoved builtin stands fits unmoved none asked).leadsInside

end Session

/-! ## A path that is moved away -/

namespace MovedLink

/-- The path of a file that is to be made in `x`. -/
def parked : Resolved :=
  ⟨VirtualPath.root.join "a/x/secret.txt", ["root", "a", "x", "secret.txt"]⟩

/-- Lines that leave the way to the file alone. -/
def waiting : List (Moment × String) :=
  [(0, "nano a/x/secret.txt"), (0, "touch a/note"), (1, "rm a/note"), (2, "ls b/x")]

/-- Lines that put another directory in its way, which holds a link that leads out. -/
def swapping : List (Moment × String) :=
  [(0, "nano a/x/secret.txt"), (1, "mv a c"), (2, "mv b a")]

end MovedLink

/-- A path has waited while other lines were processed, and the editor is confined. -/
theorem Session.edit_parked_confined_of_waiting :
    let session := (MovedLink.session "top secret").processAll MovedLink.waiting
    let tree := session.takeEditorRequest.2.scene.tree
    session.takeEditorRequest.1 = some MovedLink.parked ∧
      MovedLink.parked.LeadsInside MovedLink.sandbox tree ∧
      ∀ keys trouble, Editor.Confined MovedLink.sandbox tree MovedLink.parked keys trouble := by
  have asked : ((MovedLink.session "top secret").processAll MovedLink.waiting).takeEditorRequest.1 =
      some MovedLink.parked := by decide +kernel
  have fits : (MovedLink.session "top secret").Throughout Session.Fits MovedLink.waiting := by
    decide +kernel
  have unmoved : (MovedLink.session "top secret").Throughout (Session.Unmoved MovedLink.parked)
      MovedLink.waiting := by decide +kernel
  have stands : (MovedLink.session "top secret").sandbox.Stands
      (MovedLink.session "top secret").scene.tree := MovedLink.stands "top secret"
  have builtin : (MovedLink.session "top secret").registry = ⟨Commands.builtin ""⟩ := rfl
  obtain ⟨leads, -, confined⟩ := Session.edit_parked_confined builtin stands rfl asked
  exact ⟨asked, leads fits unmoved, confined (leads fits unmoved)⟩

/-- **A waiting path leads out** once a directory with a link has been moved into its place: the editor
shows the secret, and by some keys it overwrites it. -/
theorem Session.parked_path_leads_out :
    let session := (MovedLink.session "top secret").processAll MovedLink.swapping
    let tree := session.takeEditorRequest.2.scene.tree
    MovedLink.sandbox.Stands (MovedLink.tree "top secret") ∧
      (MovedLink.session "top secret").Throughout Session.Fits MovedLink.swapping ∧
      session.takeEditorRequest.1 = some MovedLink.parked ∧
      (∃ keys, ¬ SameOutside MovedLink.sandbox.root tree
        (Editor.edit MovedLink.parked tree keys).tree) ∧
      ∃ keys other, Alike MovedLink.sandbox.root tree other ∧
        (Editor.edit MovedLink.parked other keys).shown ≠
          (Editor.edit MovedLink.parked tree keys).shown := by
  intro session tree
  let secret : Location := ["outside", "secret.txt"]
  have outside : ¬ MovedLink.sandbox.root <+: secret := by decide
  have kept : tree.kindAt? secret = some (.file (Text.encode "top secret")) := by decide +kernel
  have overwritten : (Editor.edit MovedLink.parked tree
      [.line ":d", .line "x", .line ":wq"]).tree.kindAt? secret =
        some (.file (Text.encode "x\n")) := by decide +kernel
  have alike := Alike.put_file kept (Text.encode "another one") (by decide) outside
  refine ⟨MovedLink.stands _, by decide +kernel, by decide +kernel,
    ⟨[.line ":d", .line "x", .line ":wq"], fun same => ?_⟩, [.line ":q"], _, alike,
    by decide +kernel⟩
  have changed := same secret outside
  rw [overwritten, kept] at changed
  exact absurd changed (by decide +kernel)

end ConfinedShell
