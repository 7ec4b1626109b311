import ConfinedShell.Proofs.Footprint
import ConfinedShell.Proofs.Making
import ConfinedShell.Seed

/-!
# A sandbox without links

A sandbox is **linkless** in a tree when its root stands and no link stands in it (`Sandbox.Linkless`).
There the check of a path adds nothing: every virtual path is resolved to the one that it **spells**
(`Sandbox.spelt`), its segments behind the root, whether something is there or not, and whether the host
takes the path or not (`Linkless.resolveVirtual`). So the physical path says no more and no less than the
virtual one.

Nothing that is done by such paths brings a link in. What an operation sets is a file or an empty directory,
and what a move sets comes out of the same root (`Linkless.perform`). Directories are made along the path,
and those that hold the root are there already (`Linkless.makeDirectories`). From these a seed is put
together (`Linkless.plant`).
-/

set_option autoImplicit false

namespace ConfinedShell

open FileTree (NoNewLinks)

namespace Sandbox

variable {sandbox : Sandbox} {tree after : FileTree}

/-- **What a virtual path spells**: its segments behind the root. -/
def spelt (sandbox : Sandbox) (path : VirtualPath) : Resolved :=
  ⟨path, sandbox.root ++ path.segments⟩

@[simp] theorem virtualPath_spelt (sandbox : Sandbox) (path : VirtualPath) :
    (sandbox.spelt path).virtualPath = path := rfl

@[simp] theorem physical_spelt (sandbox : Sandbox) (path : VirtualPath) :
    (sandbox.spelt path).physical = sandbox.root ++ path.segments := rfl

/-- Different virtual paths spell different physical ones. -/
theorem physical_spelt_inj {one other : VirtualPath} :
    (sandbox.spelt one).physical = (sandbox.spelt other).physical ↔ one = other := by
  rw [physical_spelt, physical_spelt, List.append_cancel_left_eq, VirtualPath.ext_iff]

/-- **A sandbox is linkless** in a tree when its root stands there and no link stands in the root. -/
structure Linkless (sandbox : Sandbox) (tree : FileTree) : Prop where
  stands : sandbox.Stands tree
  noLink : ∀ location target, sandbox.root <+: location → tree.kindAt? location ≠ some (.link target)

namespace Linkless

/-! ## What paths mean -/

/-- Every path that is spelt is straight. -/
theorem straight (linkless : sandbox.Linkless tree) (path : VirtualPath) :
    tree.Straight (sandbox.spelt path).physical := by
  refine ⟨linkless.stands.plain_append path, fun way inside _ target isLink => ?_⟩
  -- On the way to the root there are directories alone, and behind it there is no link.
  rcases List.prefix_or_prefix_of_prefix inside (List.prefix_append _ _) with above | below
  · exact linkless.stands.real.not_link above target isLink
  · exact linkless.noLink way target below (FileTree.kindAt?_eq_link.mpr isLink)

/-- **Every path is resolved to what it spells.** -/
theorem resolveVirtual (linkless : sandbox.Linkless tree) (path : VirtualPath) :
    sandbox.resolveVirtual tree path = .ok (sandbox.spelt path) := by
  have settled := settle_of_straight (linkless.straight path)
  rw [physical_spelt] at settled
  rw [Sandbox.resolveVirtual, settled]
  exact if_pos (List.isPrefixOf_iff_prefix.mpr (List.prefix_append _ _))

/-- What a path was resolved to is what it spells. -/
theorem eq_spelt (linkless : sandbox.Linkless tree) {path : VirtualPath} {resolved : Resolved}
    (checked : sandbox.resolveVirtual tree path = .ok resolved) : resolved = sandbox.spelt path := by
  rw [linkless.resolveVirtual path] at checked
  exact (Except.ok.inj checked).symm

/-- Every path that is spelt is secure. -/
theorem secure (linkless : sandbox.Linkless tree) (path : VirtualPath) :
    (sandbox.spelt path).Secure sandbox tree :=
  ⟨List.prefix_append _ _, linkless.straight path⟩

/-! ## What brings no link in -/

/-- A change that makes no link leaves no link in the root. -/
theorem of_noNewLinks (linkless : sandbox.Linkless tree) (stands : sandbox.Stands after)
    (noNew : NoNewLinks tree after) : sandbox.Linkless after :=
  ⟨stands, fun location target inside isLink =>
    linkless.noLink location target inside (noNew location target isLink)⟩

/-- A node that is taken from one place in the root to another one brings no link with it. -/
theorem noLink_of_move (linkless : sandbox.Linkless tree) {source : Location} {node : FileTree}
    (inside : sandbox.root <+: source) (found : tree.at? source = some node) (destination : Location)
    {location : Location} (below : sandbox.root <+: location) (target : String) :
    ((tree.remove source).put destination node).kindAt? location ≠ some (.link target) := by
  intro isLink
  rcases FileTree.kindAt?_put (tree.remove source) node destination location with kept | ⟨rest, -, set⟩
  · rw [kept] at isLink
    exact linkless.noLink location target below (NoNewLinks.remove location target isLink)
  · rw [set, ← FileTree.kindAt?_append found] at isLink
    exact linkless.noLink _ target (inside.trans (List.prefix_append source rest)) isLink

/-- **An operation brings no link in** by paths that are spelt. -/
theorem perform (linkless : sandbox.Linkless tree) {operation : Operation}
    (spelt : ∀ path ∈ operation.paths, path = sandbox.spelt path.virtualPath)
    (performed : operation.perform tree = .ok after) : sandbox.Linkless after := by
  have secure : ∀ path ∈ operation.paths, path.Secure sandbox tree := by
    intro path mem
    rw [spelt path mem]
    exact linkless.secure path.virtualPath
  have good : ∀ path ∈ operation.paths, sandbox.resolveVirtual tree path.virtualPath = .ok path := by
    intro path mem
    rw [linkless.resolveVirtual, ← spelt path mem]
  have stands := (operation.keeps_of_secure linkless.stands secure good performed).stands
  cases operation.does_of_perform secure performed with
  | stay => exact linkless
  | @move source destination node found =>
    have inside := (secure source List.mem_cons_self).inside
    exact ⟨stands, fun location target below => linkless.noLink_of_move inside found _ below target⟩
  | _ => exact linkless.of_noNewLinks stands (Operation.noNewLinks rfl performed)

/-- **Directories that are made along a path** that is spelt bring no link in, also when not all of them can
be made. -/
theorem makeDirectories (linkless : sandbox.Linkless tree) (path : VirtualPath) :
    sandbox.Linkless (tree.makeDirectories (sandbox.spelt path).physical).1 := by
  refine FileTree.makeDirectories_keeps _ linkless fun tree way after linkless inside made => ?_
  have secure := linkless.secure path
  have kept := linkless.stands.keeps_makeDirectory secure.inside secure.straight inside made
  exact linkless.of_noNewLinks kept.stands (.of_makeDirectory made)

end Linkless

/-! ## Seeds -/

/-- **A clean outcome**: the sandbox is linkless in the files that are left, and if there is a failure, it
is not one of the sandbox. -/
structure Clean {α : Type} (sandbox : Sandbox) (outcome : FileTree × Except Failure α) : Prop where
  linkless : sandbox.Linkless outcome.1
  own : ∀ cause, outcome.2 = .error cause → cause.IsOwn

theorem Linkless.clean {α : Type} (linkless : sandbox.Linkless tree) (a : α) :
    sandbox.Clean (tree, .ok a) :=
  ⟨linkless, fun _ failed => nomatch failed⟩

theorem Linkless.failed {α : Type} {cause : Failure} (linkless : sandbox.Linkless tree)
    (own : cause.IsOwn) : sandbox.Clean (tree, (.error cause : Except Failure α)) :=
  ⟨linkless, fun _ failed => Except.error.inj failed ▸ own⟩

/-- **One step after the other**: a step that fails is the last one, and what comes after one that succeeds
starts in a linkless sandbox. -/
theorem Clean.andThen {α β : Type} {outcome : FileTree × Except Failure α}
    {result : FileTree × Except Failure β} (clean : sandbox.Clean outcome)
    (stops : ∀ tree cause, outcome = (tree, .error cause) → result = (tree, .error cause))
    (goesOn : ∀ tree a, outcome = (tree, .ok a) → sandbox.Linkless tree → sandbox.Clean result) :
    sandbox.Clean result := by
  obtain ⟨tree, ended⟩ := outcome
  cases ended with
  | error cause =>
    rw [stops tree cause rfl]
    exact clean.linkless.failed (clean.own cause rfl)
  | ok a => exact goesOn tree a rfl clean.linkless

namespace Linkless

theorem createDirectories (linkless : sandbox.Linkless tree) (path : VirtualPath) :
    sandbox.Clean ((sandbox.spelt path).createDirectories tree) :=
  ⟨linkless.makeDirectories path, fun _ failed => Failure.isOwn_of_told failed⟩

theorem makeDirs (linkless : sandbox.Linkless tree) (dirs : List String) :
    sandbox.Clean (Seed.makeDirs sandbox tree dirs) := by
  induction dirs generalizing tree with
  | nil => exact linkless.clean ()
  | cons dir rest ih =>
    rw [Seed.makeDirs, linkless.resolveVirtual]
    refine (linkless.createDirectories (VirtualPath.parse dir)).andThen
      (fun _ _ failed => by simp only [failed]) fun tree _ made linkless => ?_
    simp only [made]
    exact ih linkless

/-- **Bytes that are sent along a path** that is spelt bring no link in, also when there is trouble. -/
theorem send (linkless : sandbox.Linkless tree) (path : VirtualPath) (trouble : Option Trouble) (bytes : Text.Bytes) :
    sandbox.Clean ((sandbox.spelt path).send trouble bytes tree) := by
  refine ⟨?_, fun cause failed => Resolved.isOwn_of_send (Prod.ext rfl failed)⟩
  have sent := Prod.eta ((sandbox.spelt path).send trouble bytes tree)
  rcases Resolved.write_of_send sent.symm with same | ⟨arrived, written⟩
  · rw [same]
    exact linkless
  · have performed : (Operation.write (sandbox.spelt path) arrived).perform tree = .ok _ := written
    exact linkless.perform (by simp [Operation.paths]) performed

theorem writeFile (linkless : sandbox.Linkless tree) (file : SeedFile) (trouble : Option Trouble) :
    sandbox.Clean (Seed.writeFile sandbox tree file trouble) := by
  rw [Seed.writeFile, linkless.resolveVirtual]
  dsimp only
  rw [linkless.resolveVirtual, virtualPath_spelt]
  split
  · exact linkless.clean false
  refine (linkless.createDirectories (VirtualPath.parse file.path).parent).andThen
    (fun _ _ failed => by simp only [failed]) fun tree _ made linkless => ?_
  simp only [made]
  refine (linkless.send (VirtualPath.parse file.path) trouble (Text.encode file.contents)).andThen
    (fun _ _ failed => by simp only [failed]) fun tree _ sent linkless => ?_
  simp only [sent]
  exact linkless.clean true

theorem writeFiles (linkless : sandbox.Linkless tree) (files : List SeedFile) (fate : SeedFile → Option Trouble) :
    sandbox.Clean (Seed.writeFiles sandbox tree files fate) := by
  induction files generalizing tree with
  | nil => exact linkless.clean 0
  | cons file rest ih =>
    rw [Seed.writeFiles]
    refine (linkless.writeFile file (fate file)).andThen (fun _ _ failed => by simp only [failed])
      fun tree _ made linkless => ?_
    simp only [made]
    refine (ih linkless).andThen (fun _ _ failed => by simp only [failed])
      fun tree _ counted linkless => ?_
    simp only [counted]
    exact linkless.clean _

/-- **A seed brings no link in**, and none of its paths is rejected. -/
theorem plant (linkless : sandbox.Linkless tree) (seed : Seed) (fate : SeedFile → Option Trouble) :
    sandbox.Clean (seed.plant sandbox tree fate) := by
  rw [Seed.plant]
  refine (linkless.makeDirs seed.dirs).andThen (fun _ _ failed => by simp only [failed])
    fun tree _ made linkless => ?_
  simp only [made]
  exact linkless.writeFiles seed.files fate

end Linkless

end Sandbox

end ConfinedShell
