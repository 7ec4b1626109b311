import ConfinedShell.Proofs.Parking

/-!
# Making directories along a path

`makeDirectories` is the one call that may do something and fail all the same. It is a sequence of calls that
each make one directory at a beginning of the path, so what each of these keeps, the whole keeps as well,
however it ends (`FileTree.makeDirectoriesUp_keeps`). By a secure path the directories are made below the root
of the sandbox, and the path stays secure on the way (`Resolved.createDirectories_keeps`).
-/

set_option autoImplicit false

namespace ConfinedShell

namespace FileTree

/-! ## One directory after the other -/

variable {tree : FileTree} {kept : FileTree → Prop} {path : Location}

/-- What making a directory keeps, ensuring it keeps. -/
theorem ensureDirectory_keeps (holds : kept tree)
    (step : ∀ after, tree.makeDirectory path = .ok after → kept after) :
    kept (tree.ensureDirectory path).1 := by
  rw [ensureDirectory]
  split
  · next made => exact step _ made
  · split
    · exact holds
    · exact holds

/-- What making a directory keeps is kept when a directory is ensured after the one that holds it. -/
theorem ensureAfter_keeps {makeHolder : Unit → FileTree × Except HostError Unit} (holds : kept tree)
    (holder : kept (makeHolder ()).1)
    (step : ∀ tree after, kept tree → tree.makeDirectory path = .ok after → kept after) :
    kept (tree.ensureAfter path makeHolder).1 := by
  rw [ensureAfter]
  split
  · split
    · next made =>
      rw [made] at holder
      exact holder
    · next made =>
      rw [made] at holder
      exact ensureDirectory_keeps holder fun after => step _ after holder
  · exact ensureDirectory_keeps holds fun after => step _ after holds

/-- **Making directories keeps what making each of them keeps**, whether it succeeds or fails. The directories
are made at the beginnings of the path, from the top down. -/
theorem makeDirectoriesUp_keeps {upward : List String} (holds : kept tree)
    (step : ∀ tree way after, kept tree → way <+: upward.reverse → tree.makeDirectory way = .ok after →
      kept after) : kept (tree.makeDirectoriesUp upward).1 := by
  induction upward with
  | nil => exact holds
  | cons name upward ih =>
    have above : upward.reverse <+: (name :: upward).reverse := by simp
    rw [makeDirectoriesUp]
    refine ensureAfter_keeps holds ?_ fun tree after held => step tree _ after held List.prefix_rfl
    exact ih fun tree way after held inside => step tree way after held (inside.trans above)

/-- The same, of all directories of a path. -/
theorem makeDirectories_keeps (kept : FileTree → Prop) (holds : kept tree)
    (step : ∀ tree way after, kept tree → way <+: path → tree.makeDirectory way = .ok after →
      kept after) : kept (tree.makeDirectories path).1 := by
  refine makeDirectoriesUp_keeps holds fun tree way after held inside => ?_
  rw [List.reverse_reverse] at inside
  exact step tree way after held inside

end FileTree

/-! ## By a secure path -/

namespace Sandbox

variable {sandbox : Sandbox} {tree after : FileTree}

/-- **A directory that is made** on the way to a place in the root stands below the root: the directories
that hold the root are there. -/
theorem Stands.keeps_makeDirectory {way path : Location} (stands : sandbox.Stands tree)
    (inRoot : sandbox.root <+: path) (straight : tree.Straight path) (inside : way <+: path)
    (made : tree.makeDirectory way = .ok after) : sandbox.Keeps tree after := by
  obtain ⟨rfl, missing⟩ := FileTree.makeDirectory_ok (straight.above inside) made
  have notAbove : ¬ way <+: sandbox.root := by
    intro above
    obtain ⟨node, there, -⟩ := (stands.real.above above).stands
    rw [missing] at there
    cases there
  have below : sandbox.root <+: way :=
    (List.prefix_or_prefix_of_prefix inside inRoot).resolve_left notAbove
  have notRoot : way ≠ sandbox.root := fun same => notAbove (same ▸ List.prefix_rfl)
  exact stands.keeps_put below notRoot _

end Sandbox

/-- Making a directory makes no link. -/
theorem FileTree.NoNewLinks.of_makeDirectory {tree after : FileTree} {path : Location}
    (made : tree.makeDirectory path = .ok after) : FileTree.NoNewLinks tree after := by
  obtain ⟨holder, name, -, rfl⟩ := FileTree.exists_of_makeDirectory made
  exact .put FileTree.directory_noLink

/-- **A sandbox keeps everything when directories are made by a secure path**, also when not all of them can
be made. -/
theorem Resolved.createDirectories_keeps {sandbox : Sandbox} {tree : FileTree} {path : Resolved}
    (stands : sandbox.Stands tree) (secure : path.Secure sandbox tree) :
    sandbox.Keeps tree (path.createDirectories tree).1 := by
  have kept : sandbox.Keeps tree (path.createDirectories tree).1 ∧
      (path.createDirectories tree).1.Straight path.physical := by
    refine FileTree.makeDirectories_keeps
      (fun now => sandbox.Keeps tree now ∧ now.Straight path.physical) ⟨.refl stands, secure.straight⟩ ?_
    rintro now way after ⟨kept, straight⟩ inside made
    exact ⟨kept.trans (kept.stands.keeps_makeDirectory secure.inside straight inside made),
      straight.of_noNewLinks (.of_makeDirectory made)⟩
  exact kept.1

end ConfinedShell
