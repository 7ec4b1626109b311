import ConfinedShell.Proofs.Calls
import ConfinedShell.Proofs.Confinement

/-!
# Operations on secure paths

A path is **secure** when it is below the root and straight (`Resolved.Secure`); a path that was just
checked is secure (`Resolved.secure_of_fits`). An operation on secure paths acts on the locations that the
paths spell, and these lie below the root. So a sandbox keeps everything (`Sandbox.Keeps`): nothing outside
of the root changes, and the root stays a directory.

A directory that is moved takes the links in it along. Where a path leads may change by that, and so
`Secure` is a property of a path in a tree and has to be asked for anew after each change.
-/

set_option autoImplicit false

namespace ConfinedShell

namespace FileTree

variable {path : Location}

/-! ## The same outside -/

/-- **Two trees are the same outside of a directory**: at every location that is not in it stands the
same in both, a file with the same bytes, a link with the same text, a directory, or nothing. -/
def SameOutside (root : Location) (before after : FileTree) : Prop :=
  ∀ location, ¬ root <+: location → after.kindAt? location = before.kindAt? location

theorem SameOutside.refl (root : Location) (tree : FileTree) : SameOutside root tree tree :=
  fun _ _ => rfl

theorem SameOutside.trans {root : Location} {first second third : FileTree}
    (one : SameOutside root first second) (two : SameOutside root second third) :
    SameOutside root first third :=
  fun location apart => (two location apart).trans (one location apart)

/-- Setting an entry in a directory changes nothing outside of it. -/
theorem SameOutside.put {root : Location} (inside : root <+: path) (tree new : FileTree) :
    SameOutside root tree (tree.put path new) :=
  fun _ apart => kindAt?_put_outside (fun below => apart (inside.trans below)) tree new

/-- Dropping an entry of a directory changes nothing outside of it. -/
theorem SameOutside.remove {root : Location} (inside : root <+: path) (tree : FileTree) :
    SameOutside root tree (tree.remove path) :=
  fun _ apart => kindAt?_remove_outside (fun below => apart (inside.trans below)) tree

/-- What is below a directory is reached through an entry of it. -/
theorem exists_below {root : Location} (inside : root <+: path) (ne : path ≠ root) :
    ∃ rest, rest ≠ [] ∧ path = root ++ rest := by
  obtain ⟨rest, rfl⟩ := inside
  exact ⟨rest, fun nil => ne (by rw [nil, List.append_nil]), rfl⟩

/-- Of two places in a directory that do not hold each other, neither is the directory. -/
theorem ne_root_of_apart {root one other : Location} (inside : root <+: other) (ne : one ≠ other)
    (apart : ¬ one <+: other.dropLast) : one ≠ root := by
  rintro rfl
  obtain ⟨rest, below, rfl⟩ := exists_below inside ne.symm
  rw [List.dropLast_append_of_ne_nil below] at apart
  exact apart (List.prefix_append _ _)

end FileTree

open FileTree (SameOutside)

namespace Sandbox

variable {sandbox : Sandbox} {tree after : FileTree}

/-! ## What a sandbox keeps -/

/-- **What a sandbox keeps** from one tree to the next: everything outside of the root is the same, and
the root is a directory still. -/
structure Keeps (sandbox : Sandbox) (before after : FileTree) : Prop where
  outside : SameOutside sandbox.root before after
  stands : sandbox.Stands after

theorem Keeps.refl (stands : sandbox.Stands tree) : sandbox.Keeps tree tree :=
  ⟨SameOutside.refl _ _, stands⟩

theorem Keeps.trans {first second third : FileTree} (one : sandbox.Keeps first second)
    (two : sandbox.Keeps second third) : sandbox.Keeps first third :=
  ⟨one.outside.trans two.outside, two.stands⟩

/-- A sandbox keeps everything when an entry is set below its root. -/
theorem Stands.keeps_put {path : Location} (stands : sandbox.Stands tree)
    (inside : sandbox.root <+: path) (ne : path ≠ sandbox.root) (new : FileTree) :
    sandbox.Keeps tree (tree.put path new) := by
  refine ⟨SameOutside.put inside tree new, stands.plain, ?_⟩
  obtain ⟨rest, below, rfl⟩ := FileTree.exists_below inside ne
  obtain ⟨entries, isDirectory⟩ := stands.isDirectory
  obtain ⟨others, same⟩ := FileTree.exists_directory_put below entries new
  exact ⟨others, by rw [FileTree.at?_put_append below, isDirectory, Option.map_some, same]⟩

/-- A sandbox keeps everything when an entry is dropped below its root. -/
theorem Stands.keeps_remove {path : Location} (stands : sandbox.Stands tree)
    (inside : sandbox.root <+: path) (ne : path ≠ sandbox.root) :
    sandbox.Keeps tree (tree.remove path) := by
  refine ⟨SameOutside.remove inside tree, stands.plain, ?_⟩
  obtain ⟨rest, below, rfl⟩ := FileTree.exists_below inside ne
  obtain ⟨entries, isDirectory⟩ := stands.isDirectory
  obtain ⟨others, same⟩ := FileTree.exists_directory_remove rest entries
  exact ⟨others, by rw [FileTree.at?_remove_append below, isDirectory, Option.map_some, same]⟩

/-- What is no directory is not the root. -/
theorem Stands.ne_root {path : Location} (stands : sandbox.Stands tree)
    (noDirectory : ∀ entries, tree.at? path ≠ some (.directory entries)) : path ≠ sandbox.root := by
  rintro rfl
  obtain ⟨entries, isDirectory⟩ := stands.isDirectory
  exact noDirectory entries isDirectory

/-- A straight path of which the end has been dropped is settled with that end behind it. -/
theorem settle_of_straight_append {upward tail : Location}
    (straight : tree.Straight (upward.reverse ++ tail)) :
    settle tree upward tail = .ok (upward.reverse ++ tail) := by
  induction upward generalizing tail with
  | nil => rfl
  | cons name upward ih =>
    have above : tree.Straight (name :: upward).reverse := straight.above (List.prefix_append _ _)
    rw [settle]
    split
    · next there =>
      have located : tree.locate .keep (name :: upward).reverse =
          .ok (.found (name :: upward).reverse) := by
        obtain ⟨location, located⟩ := FileTree.present_iff.mp there
        rw [located, ← above.locate located, Place.location_found]
      have host := above.locate_found_iff.mp located
      have real : tree.realLocation (name :: upward).reverse = .ok (name :: upward).reverse := by
        simp only [FileTree.realLocation, above.locate_found_iff.mpr host,
          if_neg (Nat.not_le.mpr host.2.1)]
      rw [real]
      rfl
    · have same : upward.reverse ++ name :: tail = (name :: upward).reverse ++ tail := by simp
      rw [← same]
      exact ih (same ▸ straight)

/-- **A straight path is resolved to itself**, whether it is there or not: as far as it is there it leads to
what it spells, and the rest is appended. -/
theorem settle_of_straight {path : Location} (straight : tree.Straight path) :
    settle tree path.reverse [] = .ok path := by
  have whole : path.reverse.reverse ++ [] = path := by simp
  rw [settle_of_straight_append (whole.symm ▸ straight), whole]

/-- Every path behind an empty root is straight. -/
theorem Stands.straight_of_empty (stands : sandbox.Stands tree)
    (empty : tree.at? sandbox.root = some (.directory [])) (path : VirtualPath) :
    tree.Straight (sandbox.root ++ path.segments) := by
  refine ⟨stands.plain_append path, fun way inside _ target isLink => ?_⟩
  rcases List.prefix_or_prefix_of_prefix inside (List.prefix_append _ path.segments) with
    above | ⟨more, rfl⟩
  · exact stands.real.not_link above target isLink
  · rw [FileTree.at?_append, empty] at isLink
    cases more <;> cases isLink

/-- Behind an empty root a path is resolved to what it spells. -/
theorem physical_of_empty {path : VirtualPath} {resolved : Resolved} (stands : sandbox.Stands tree)
    (empty : tree.at? sandbox.root = some (.directory []))
    (checked : sandbox.resolveVirtual tree path = .ok resolved) :
    resolved.physical = sandbox.root ++ path.segments := by
  obtain ⟨-, -, settled⟩ := resolveVirtual_ok checked
  rw [settle_of_straight (stands.straight_of_empty empty path)] at settled
  exact (Except.ok.inj settled).symm

/-- An empty root is reached by the path `/` alone: another path that leads to the root has to pass a
link in it. -/
theorem physical_ne_root {path : VirtualPath} {resolved : Resolved} (stands : sandbox.Stands tree)
    (empty : tree.at? sandbox.root = some (.directory [])) (below : path.segments ≠ [])
    (checked : sandbox.resolveVirtual tree path = .ok resolved) :
    resolved.physical ≠ sandbox.root := by
  intro same
  rw [physical_of_empty stands empty checked] at same
  exact below (List.append_right_eq_self.mp same)

end Sandbox

namespace Resolved

variable {sandbox : Sandbox} {tree after : FileTree} {path : Resolved}

/-! ## Operations -/

/-- **A secure path** is below the root, and no link stands on it. -/
structure Secure (sandbox : Sandbox) (tree : FileTree) (path : Resolved) : Prop where
  inside : sandbox.root <+: path.physical
  straight : tree.Straight path.physical

/-- A path that fits is secure right after it was checked. -/
theorem secure_of_fits {virtual : VirtualPath}
    (fits : sandbox.Fits virtual) (stands : sandbox.Stands tree)
    (checked : sandbox.resolveVirtual tree virtual = .ok path) : path.Secure sandbox tree :=
  ⟨(Sandbox.resolveVirtual_ok checked).2.1, Sandbox.resolveVirtual_straight stands fits checked⟩

/-- **A confined path** leads to places within the root, whatever is done with a last link. -/
def Confined (sandbox : Sandbox) (tree : FileTree) (path : Resolved) : Prop :=
  ∀ last place, tree.locate last path.physical = .ok place → place.Within sandbox.root

/-- A secure path is confined. -/
theorem Secure.confined (secure : path.Secure sandbox tree) (stands : sandbox.Stands tree) :
    path.Confined sandbox tree :=
  fun _ _ located => stands.within secure.inside secure.straight located

/-- An empty directory that a checked path leads to is not the root, unless the path is `/`. -/
theorem physical_ne_root_of_empty (stands : sandbox.Stands tree)
    (notRoot : ¬ path.virtualPath.isRoot = true)
    (checked : sandbox.resolveVirtual tree path.virtualPath = .ok path)
    (empty : tree.at? path.physical = some (.directory [])) : path.physical ≠ sandbox.root := by
  intro same
  have below : path.virtualPath.segments ≠ [] := fun nil => notRoot (by simp [VirtualPath.isRoot, nil])
  exact Sandbox.physical_ne_root stands (same ▸ empty) below checked same

/-- By a confined path a file below the root is opened for writing. -/
theorem Confined.below {location : Location} (confined : path.Confined sandbox tree)
    (stands : sandbox.Stands tree)
    (opened : tree.writableLocation path.physical = .ok location) :
    sandbox.root <+: location ∧ location ≠ sandbox.root := by
  obtain ⟨⟨place, located, rfl⟩, noDirectory⟩ := FileTree.exists_place_of_writable opened
  refine ⟨?_, stands.ne_root noDirectory⟩
  have within := confined _ _ located
  cases place with
  | found location => exact within
  | vacant holder name => exact List.IsPrefix.trans within (List.prefix_append holder [name])

/-- What a call on the host gave is told as it is. -/
theorem told_eq_ok {α : Type} {outcome : Except HostError α} {a : α} :
    path.told outcome = .ok a ↔ outcome = .ok a := by
  cases outcome <;> simp [told]

/-- A file is written as the host writes it. -/
theorem write_eq (path : Resolved) (tree : FileTree) (bytes : Text.Bytes) :
    path.write tree bytes = path.told (tree.writeFile path.physical bytes) := by
  rw [write, send, FileTree.sendBytes_none]
  cases tree.writeFile path.physical bytes <;> rfl

theorem write_eq_ok {bytes : Text.Bytes} :
    path.write tree bytes = .ok after ↔ tree.writeFile path.physical bytes = .ok after := by
  rw [write_eq, told_eq_ok]

/-- A file is copied by writing its bytes to another one. -/
theorem copyTo_eq (source path : Resolved) (tree : FileTree) :
    source.copyTo path tree =
      if source.physical = path.physical then
        .error (.command (source.text ++ " and " ++ path.text ++ " are the same file"))
      else
        path.told (tree.copied source.physical path.physical) >>= fun bytes =>
          (path.write tree bytes).map (Prod.mk bytes.length) := by
  unfold copyTo sendTo FileTree.sendFile
  split
  · rfl
  · cases tree.copied source.physical path.physical with
    | error cause => rfl
    | ok bytes =>
      have written : (path.told (.ok bytes) >>= fun bytes => (path.write tree bytes).map (Prod.mk bytes.length)) =
          (path.told (tree.writeFile path.physical bytes)).map (Prod.mk bytes.length) := by rw [← write_eq]; rfl
      rw [written]
      simp only [FileTree.sendBytes_none]
      cases tree.writeFile path.physical bytes <;> rfl

theorem copyTo_eq_ok {source : Resolved} {count : Nat} :
    source.copyTo path tree = .ok (count, after) ↔
      source.physical ≠ path.physical ∧ ∃ bytes, tree.copied source.physical path.physical = .ok bytes ∧
        path.write tree bytes = .ok after ∧ bytes.length = count := by
  rw [copyTo_eq]
  split
  · next same => simp [same]
  · next differ =>
    simp only [differ, ne_eq, not_false_eq_true, true_and, bind_eq_ok, told_eq_ok, map_eq_ok, Prod.mk.injEq]
    refine exists_congr fun bytes => and_congr_right fun _ => ?_
    constructor
    · rintro ⟨_, written, counted, rfl⟩
      exact ⟨written, counted⟩
    · rintro ⟨written, counted⟩
      exact ⟨after, written, counted, rfl⟩

theorem write_keeps {bytes : Text.Bytes} (stands : sandbox.Stands tree)
    (confined : path.Confined sandbox tree) (written : path.write tree bytes = .ok after) :
    sandbox.Keeps tree after := by
  obtain ⟨location, opened, rfl⟩ := map_eq_ok.mp (write_eq_ok.mp written)
  obtain ⟨inside, ne⟩ := confined.below stands opened
  exact stands.keeps_put inside ne _

theorem createFile_keeps (stands : sandbox.Stands tree) (secure : path.Secure sandbox tree)
    (created : path.createFile tree = .ok after) : sandbox.Keeps tree after := by
  obtain ⟨rfl, noDirectory⟩ := FileTree.touchFile_ok secure.straight (told_eq_ok.mp created)
  exact stands.keeps_put secure.inside (stands.ne_root noDirectory) _

theorem createDirectory_keeps (stands : sandbox.Stands tree) (secure : path.Secure sandbox tree)
    (created : path.createDirectory tree = .ok after) : sandbox.Keeps tree after := by
  obtain ⟨rfl, missing⟩ := FileTree.makeDirectory_ok secure.straight (told_eq_ok.mp created)
  refine stands.keeps_put secure.inside (stands.ne_root fun entries there => ?_) _
  rw [missing] at there
  cases there

/-- The root is not removed: by the path `/` it is never, and by another path it is not empty. -/
theorem removeDirectory_keeps (stands : sandbox.Stands tree) (secure : path.Secure sandbox tree)
    (checked : sandbox.resolveVirtual tree path.virtualPath = .ok path)
    (removed : path.removeDirectory tree = .ok after) : sandbox.Keeps tree after := by
  rw [removeDirectory] at removed
  split at removed
  · cases removed
  · next notRoot =>
    obtain ⟨rfl, empty⟩ := FileTree.removeDirectory_ok secure.straight (told_eq_ok.mp removed)
    exact stands.keeps_remove secure.inside (physical_ne_root_of_empty stands notRoot checked empty)

theorem removeFile_keeps (stands : sandbox.Stands tree) (secure : path.Secure sandbox tree)
    (removed : path.removeFile tree = .ok after) : sandbox.Keeps tree after := by
  obtain ⟨rfl, noDirectory⟩ := FileTree.removeFile_ok secure.straight (told_eq_ok.mp removed)
  exact stands.keeps_remove secure.inside (stands.ne_root noDirectory)

theorem copyTo_keeps {source : Resolved} {count : Nat} (stands : sandbox.Stands tree)
    (secure : path.Secure sandbox tree) (copied : source.copyTo path tree = .ok (count, after)) :
    sandbox.Keeps tree after := by
  obtain ⟨-, bytes, -, written, -⟩ := copyTo_eq_ok.mp copied
  exact write_keeps stands (secure.confined stands) written

/-- The root neither moves nor is replaced: whatever else is below it. -/
theorem moveTo_keeps {source : Resolved} (stands : sandbox.Stands tree)
    (fromSecure : source.Secure sandbox tree) (toSecure : path.Secure sandbox tree)
    (moved : source.moveTo path tree = .ok after) : sandbox.Keeps tree after := by
  rw [moveTo] at moved
  split at moved
  · cases moved
  · have renamed := told_eq_ok.mp moved
    rcases FileTree.rename_ok fromSecure.straight toSecure.straight renamed with
      rfl | ⟨node, -, rfl, notInto, notAbove, differ, -⟩
    · exact .refl stands
    · have fromBelow := FileTree.ne_root_of_apart toSecure.inside differ notInto
      have toBelow := FileTree.ne_root_of_apart fromSecure.inside differ.symm notAbove
      have removed := stands.keeps_remove fromSecure.inside fromBelow
      exact removed.trans (removed.stands.keeps_put toSecure.inside toBelow node)

end Resolved

end ConfinedShell
