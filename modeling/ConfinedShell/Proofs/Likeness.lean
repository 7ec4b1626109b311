import ConfinedShell.Proofs.Operations
import ConfinedShell.Proofs.Sight

/-!
# Trees that differ in contents outside

Two trees are **alike** around a root (`FileTree.Alike`) when they have the same names, kinds and links
everywhere and the same subtree at the root: nothing but the contents of regular files outside of the
root may differ. A path leads to the same place in both of them (`FileTree.Alike.locate_eq`), because
where it leads depends on names, kinds and links alone. So the sandbox checks it with the same result, and
what is read by a confined path is the same (`Resolved.Confined.readText_eq`).
-/

set_option autoImplicit false

namespace ConfinedShell

namespace FileTree

/-! ## Alike trees -/

/-- **Alike trees** differ in the contents of files outside of the root, and in nothing else. -/
structure Alike (root : Location) (tree other : FileTree) : Prop where
  shape : ∀ location, other.shapeAt? location = tree.shapeAt? location
  inside : other.at? root = tree.at? root

namespace Alike

variable {root : Location} {tree other : FileTree}

/-- At a location in the root stands the same node. -/
theorem at?_eq (alike : Alike root tree other) {location : Location} (inside : root <+: location) :
    other.at? location = tree.at? location := by
  obtain ⟨rest, rfl⟩ := inside
  rw [at?_append, at?_append, alike.inside]

/-- What stands at a location in alike trees is of the same shape. -/
theorem at?_cases (alike : Alike root tree other) (location : Location) :
    (tree.at? location = none ∧ other.at? location = none) ∨
      (∃ target, tree.at? location = some (link target) ∧
        other.at? location = some (link target)) ∨
      (∃ bytes bytes', tree.at? location = some (file bytes) ∧
        other.at? location = some (file bytes')) ∨
      ∃ entries entries', tree.at? location = some (directory entries) ∧
        other.at? location = some (directory entries') :=
  at?_cases_of_shape (alike.shape location)

/-! ## Where paths lead -/

/-- A walk goes the same way in alike trees. -/
theorem walk_eq (alike : Alike root tree other) (last : LastLink) (links : Nat) (here : Location)
    (parts : List String) : other.walk last links here parts = tree.walk last links here parts :=
  walk_eq_of_seen fun location _ => alike.shape location

/-- **A path leads to the same place** in alike trees. -/
theorem locate_eq (alike : Alike root tree other) (last : LastLink) (path : Location) :
    other.locate last path = tree.locate last path :=
  locate_eq_of_seen fun location _ => alike.shape location

theorem present_eq (alike : Alike root tree other) (path : Location) :
    other.present path = tree.present path := by
  rw [present, present, alike.locate_eq]

theorem realLocation_eq (alike : Alike root tree other) (path : Location) :
    other.realLocation path = tree.realLocation path := by
  rw [realLocation, realLocation, alike.locate_eq]

/-! ## What a path leads to -/

/-- A path leads to nodes of the same shape in alike trees, or fails with the same error. -/
theorem stat_cases (alike : Alike root tree other) (path : Location) :
    (∃ cause, tree.stat path = .error cause ∧ other.stat path = .error cause) ∨
      ∃ node node', tree.stat path = .ok node ∧ other.stat path = .ok node' ∧
        node'.kind.shape = node.kind.shape := by
  rw [stat, stat, alike.locate_eq]
  cases tree.locate .follow path with
  | error cause => exact .inl ⟨cause, rfl, rfl⟩
  | ok place =>
    cases place with
    | vacant holder name => exact .inl ⟨_, rfl, rfl⟩
    | found location =>
      dsimp only
      rcases alike.at?_cases location with ⟨h, h'⟩ | ⟨_, h, h'⟩ | ⟨_, _, h, h'⟩ | ⟨_, _, h, h'⟩
      · rw [h, h']
        exact .inl ⟨_, rfl, rfl⟩
      all_goals
        rw [h, h']
        exact .inr ⟨_, _, rfl, rfl, rfl⟩

/-- By a path that leads into the root the same node is reached. -/
theorem stat_eq (alike : Alike root tree other) {path : Location}
    (confined : ∀ place, tree.locate .follow path = .ok place → place.Within root) :
    other.stat path = tree.stat path := by
  rw [stat, stat, alike.locate_eq]
  cases located : tree.locate .follow path with
  | error cause => rfl
  | ok place =>
    cases place with
    | vacant holder name => rfl
    | found location =>
      dsimp only
      rw [alike.at?_eq (confined _ located)]

end Alike

/-- Whether a node is a directory can be seen from its shape. -/
theorem isDirectory_eq (node : FileTree) : node.isDirectory = decide (node.kind.shape = .directory) := by
  cases node <;> simp [isDirectory, kind, Kind.shape]

/-- Whether a node is a regular file can be seen from its shape. -/
theorem isRegular_eq (node : FileTree) : node.isRegular = decide (node.kind.shape = .file []) := by
  cases node <;> simp [isRegular, kind, Kind.shape]

end FileTree

open FileTree (Alike)

namespace Sandbox

variable {sandbox : Sandbox} {root : Location} {tree other : FileTree}

/-- A path is settled on the same location in alike trees. -/
theorem settle_eq (alike : Alike root tree other) (upward tail : List String) :
    settle other upward tail = settle tree upward tail := by
  induction upward generalizing tail with
  | nil => rfl
  | cons name upward ih =>
    rw [settle, settle]
    simp only [alike.present_eq, alike.realLocation_eq, ih]

/-- **A path is checked with the same result** in alike trees. -/
theorem resolveVirtual_eq (alike : Alike root tree other) (path : VirtualPath) :
    sandbox.resolveVirtual other path = sandbox.resolveVirtual tree path := by
  rw [resolveVirtual, resolveVirtual, settle_eq alike]

end Sandbox

namespace Resolved

variable {sandbox : Sandbox} {tree other : FileTree} {path : Resolved}

/-! ## What may be asked -/

theorem exists?_eq {root : Location} (alike : Alike root tree other) (path : Resolved) :
    path.exists? other = path.exists? tree := by
  unfold exists? FileTree.pathExists
  rcases alike.stat_cases path.physical with ⟨_, h, h'⟩ | ⟨_, _, h, h', -⟩
  · rw [h, h']
  · rw [h, h']
    rfl

theorem isDirectory_eq {root : Location} (alike : Alike root tree other) (path : Resolved) :
    path.isDirectory other = path.isDirectory tree := by
  unfold isDirectory FileTree.pathIsDirectory
  rcases alike.stat_cases path.physical with ⟨_, h, h'⟩ | ⟨node, node', h, h', same⟩
  · rw [h, h']
  · rw [h, h']
    show node'.isDirectory = node.isDirectory
    rw [node'.isDirectory_eq, node.isDirectory_eq, same]

theorem isRegular_eq {root : Location} (alike : Alike root tree other) (path : Resolved) :
    path.isRegular other = path.isRegular tree := by
  unfold isRegular FileTree.pathIsRegular
  rcases alike.stat_cases path.physical with ⟨_, h, h'⟩ | ⟨node, node', h, h', same⟩
  · rw [h, h']
  · rw [h, h']
    show node'.isRegular = node.isRegular
    rw [node'.isRegular_eq, node.isRegular_eq, same]

/-- An entry is listed as the same sort of thing, also where a link leads out of the root. -/
theorem entryKind_eq {root : Location} (alike : Alike root tree other) (path : Resolved)
    (name : String) (node : FileTree) :
    path.entryKind other name node = path.entryKind tree name node := by
  unfold entryKind
  rcases alike.stat_cases (path.physical ++ [name]) with ⟨_, h, h'⟩ | ⟨reached, reached', h, h', same⟩
  · rw [h, h']
  · rw [h, h']
    dsimp only
    rw [reached'.isDirectory_eq, reached.isDirectory_eq, same]

/-- **What is read by a confined path is the same** in alike trees. -/
theorem Confined.readText_eq (confined : path.Confined sandbox tree)
    (alike : Alike sandbox.root tree other) : path.readText other = path.readText tree := by
  rw [readText, readText, FileTree.readFile, FileTree.readFile,
    alike.stat_eq fun place => confined .follow place]

theorem Confined.readDirectory_eq (confined : path.Confined sandbox tree)
    (alike : Alike sandbox.root tree other) (storage : Storage) :
    path.readDirectory storage other = path.readDirectory storage tree := by
  rw [readDirectory, readDirectory, FileTree.readDirectory, FileTree.readDirectory,
    isRegular_eq alike, alike.stat_eq fun place => confined .follow place]
  simp only [entryKind_eq alike]

end Resolved

end ConfinedShell
