import ConfinedShell.Proofs.Likeness
import ConfinedShell.Proofs.Careful

/-!
# Operations in alike trees

An operation on confined paths ends in the same way in alike trees (`SameEnd`): it fails with the same
error in both, or it succeeds in both and leaves alike trees. An attempt at one, which may leave a changed tree when it
fails, has the same outcome in both and leaves alike trees (`SameAttempt`). Each section follows one group of calls on
the host: the place that a call acts on is the same in both trees, it lies in the root, and there the trees
are the same. A move is the one call that reads directories which may stand outside of the root; all that it
takes from them is the entry that it moves or replaces.
-/

set_option autoImplicit false

namespace ConfinedShell

/-! ## Ending in the same way -/

/-- **Two outcomes end in the same way** when they are the same error or related results. -/
inductive SameEnd {ε α : Type} (related : α → α → Prop) : Except ε α → Except ε α → Prop where
  | error (cause : ε) : SameEnd related (.error cause) (.error cause)
  | ok {a b : α} (same : related a b) : SameEnd related (.ok a) (.ok b)

namespace SameEnd

variable {ε α β : Type} {related : α → α → Prop}

theorem map {x y : Except ε α} {related' : β → β → Prop} {f g : α → β} (same : SameEnd related x y)
    (goesOn : ∀ a b, related a b → related' (f a) (g b)) :
    SameEnd related' (x.map f) (y.map g) := by
  cases same with
  | error cause => exact .error cause
  | ok same => exact .ok (goesOn _ _ same)

theorem bind {x y : Except ε α} {related' : β → β → Prop} {f g : α → Except ε β}
    (same : SameEnd related x y) (goesOn : ∀ a b, related a b → SameEnd related' (f a) (g b)) :
    SameEnd related' (x >>= f) (y >>= g) := by
  cases same with
  | error cause => exact .error cause
  | ok same => exact goesOn _ _ same

/-- Both outcomes are the same error, or both are results. -/
theorem cases {x y : Except ε α} (same : SameEnd related x y) :
    (∃ cause, x = .error cause ∧ y = .error cause) ∨
      ∃ a b, x = .ok a ∧ y = .ok b ∧ related a b := by
  cases same with
  | error cause => exact .inl ⟨cause, rfl, rfl⟩
  | ok same => exact .inr ⟨_, _, rfl, rfl, same⟩

/-- An outcome ends in the same way as itself. -/
theorem self (x : Except ε α) : SameEnd (fun a b => b = a ∧ x = .ok a) x x := by
  cases x with
  | error cause => exact .error cause
  | ok a => exact .ok ⟨rfl, rfl⟩

theorem told {path : Resolved} {x y : Except HostError α} (same : SameEnd related x y) :
    SameEnd related (path.told x) (path.told y) := by
  cases same with
  | error cause => exact .error _
  | ok same => exact .ok same

end SameEnd

/-- **Two attempts end in the same way** when they leave related trees and have the same outcome. -/
structure SameAttempt {ε α : Type} (related : FileTree → FileTree → Prop) (one other : FileTree × Except ε α) :
    Prop where
  left : related one.1 other.1
  outcome : other.2 = one.2

namespace SameAttempt

variable {ε α : Type} {related : FileTree → FileTree → Prop} {tree other : FileTree}

/-- Neither attempt gets as far as to change anything. -/
theorem error (start : related tree other) (cause : ε) :
    SameAttempt related (tree, (.error cause : Except ε α)) (other, .error cause) :=
  ⟨start, rfl⟩

/-- What is done as a whole or not at all. -/
theorem whole {x y : Except Failure FileTree} (start : related tree other) (same : SameEnd related x y) :
    SameAttempt related (Operation.wholly tree x) (Operation.wholly other y) := by
  cases same with
  | error cause => exact error start cause
  | ok same => exact ⟨same, rfl⟩

/-- Bytes are sent in the same way where they are written in the same way. -/
theorem send {path path' : Resolved} (start : related tree other) (named : path'.text = path.text)
    (writes : ∀ bytes, SameEnd related (path.write tree bytes) (path'.write other bytes)) (trouble : Option Trouble)
    (bytes : Text.Bytes) : SameAttempt related (path.send trouble bytes tree) (path'.send trouble bytes other) := by
  rw [Resolved.send_eq, Resolved.send_eq, named]
  rcases (writes (arriving trouble bytes)).cases with ⟨cause, failed, failed'⟩ | ⟨after, after', done, done', same⟩
  · rw [failed, failed']
    exact error start cause
  · rw [done, done']
    match trouble with
    | none => exact ⟨same, rfl⟩
    | some ⟨none, e⟩ => exact ⟨start, rfl⟩
    | some ⟨some count, e⟩ => exact ⟨same, rfl⟩

end SameAttempt

namespace FileTree

variable {root : Location} {tree other : FileTree}

namespace Alike

/-! ## Changed trees -/

/-- Trees are alike when they are the same in the root and of the same shape outside. -/
theorem of_outside (inside : other.at? root = tree.at? root)
    (outside : ∀ location, ¬ root <+: location → other.shapeAt? location = tree.shapeAt? location) :
    Alike root tree other := by
  refine ⟨fun location => ?_, inside⟩
  by_cases within : root <+: location
  · obtain ⟨rest, rfl⟩ := within
    simp only [shapeAt?, kindAt?, at?_append, inside]
  · exact outside location within

/-- The same entry is set below the root. -/
theorem put (alike : Alike root tree other) {path : Location} (inside : root <+: path)
    (ne : path ≠ root) (new : FileTree) : Alike root (tree.put path new) (other.put path new) := by
  refine of_outside ?_ fun location apart => ?_
  · obtain ⟨rest, below, rfl⟩ := exists_below inside ne
    rw [at?_put_append below, at?_put_append below, alike.inside]
  · rw [shapeAt?, shapeAt?, SameOutside.put inside other new location apart,
      SameOutside.put inside tree new location apart]
    exact alike.shape location

/-- The same entry is dropped below the root. -/
theorem remove (alike : Alike root tree other) {path : Location} (inside : root <+: path)
    (ne : path ≠ root) : Alike root (tree.remove path) (other.remove path) := by
  refine of_outside ?_ fun location apart => ?_
  · obtain ⟨rest, below, rfl⟩ := exists_below inside ne
    rw [at?_remove_append below, at?_remove_append below, alike.inside]
  · rw [shapeAt?, shapeAt?, SameOutside.remove inside other location apart,
      SameOutside.remove inside tree location apart]
    exact alike.shape location

/-- New contents of a file beside the root make for an alike tree. -/
theorem put_file {path : Location} {bytes : Text.Bytes}
    (isFile : tree.kindAt? path = some (.file bytes)) (bytes' : Text.Bytes)
    (apart : ¬ path <+: root) (apart' : ¬ root <+: path) :
    Alike root tree (tree.put path (file bytes')) := by
  refine ⟨fun location => ?_, at?_put_beside apart apart' tree _⟩
  rw [shapeAt?, shapeAt?]
  rcases kindAt?_put tree (file bytes') path location with kept | ⟨rest, rfl, new⟩
  · rw [kept]
  · obtain ⟨node, stands, isFile⟩ := Option.map_eq_some_iff.mp isFile
    rw [new, kindAt?, kindAt?, at?_append, stands]
    cases node with
    | file bytes => cases rest <;> simp [kind, Kind.shape]
    | link target => cases isFile
    | directory entries => cases isFile

/-! ## Where calls act -/

/-- A file is opened for writing at the same location. -/
theorem writableLocation_eq (alike : Alike root tree other) (path : Location) :
    other.writableLocation path = tree.writableLocation path := by
  rw [writableLocation, writableLocation, alike.locate_eq]
  cases tree.locate .create path with
  | error cause => rfl
  | ok place =>
    cases place with
    | vacant holder name => rfl
    | found location =>
      dsimp only
      rcases alike.at?_cases location with ⟨h, h'⟩ | ⟨_, h, h'⟩ | ⟨_, _, h, h'⟩ | ⟨_, _, h, h'⟩
      all_goals rw [h, h']

/-- A path that is moved from or to is looked up in directories at the same location. -/
theorem holderOf_alike (alike : Alike root tree other) (path : Location) :
    SameEnd (fun held held' => held'.1 = held.1 ∧ held'.2.2 = held.2.2 ∧
      tree.holderOf path = .ok held ∧ other.holderOf path = .ok held')
      (tree.holderOf path) (other.holderOf path) := by
  have ends : SameEnd (fun held held' => held'.1 = held.1 ∧ held'.2.2 = held.2.2)
      (tree.holderOf path) (other.holderOf path) := by
    unfold holderOf
    refine (SameEnd.self (checkLength path)).bind fun _ _ _ => ?_
    cases path.getLast? with
    | none => exact .error _
    | some name =>
      dsimp only
      rw [alike.walk_eq]
      cases tree.walk .follow linkLimit [] path.dropLast with
      | error cause => exact .error _
      | ok place =>
        cases place with
        | vacant holder missing => exact .error _
        | found holder =>
          dsimp only
          rcases alike.at?_cases holder with ⟨h, h'⟩ | ⟨_, h, h'⟩ | ⟨_, _, h, h'⟩ | ⟨_, _, h, h'⟩
          · rw [h, h']
            exact .error _
          · rw [h, h']
            exact .error _
          · rw [h, h']
            exact .error _
          · rw [h, h']
            exact .ok ⟨rfl, rfl⟩
  generalize tree.holderOf path = x at ends ⊢
  generalize other.holderOf path = y at ends ⊢
  cases ends with
  | error cause => exact .error cause
  | ok same => exact .ok ⟨same.1, same.2, rfl, rfl⟩

/-- A straight path is straight in both trees. -/
theorem straight (alike : Alike root tree other) {path : Location} (straight : tree.Straight path) :
    other.Straight path := by
  refine ⟨straight.plain, fun way inside taken target isLink => ?_⟩
  rcases alike.at?_cases way with ⟨-, h'⟩ | ⟨target', h, -⟩ | ⟨_, _, -, h'⟩ | ⟨_, _, -, h'⟩
  · rw [isLink] at h'
    cases h'
  · exact straight.linkFree way inside taken target' h
  · rw [isLink] at h'
    cases h'
  · rw [isLink] at h'
    cases h'

/-- What is moved and what is replaced is the same, as long as both places are in the root. -/
theorem rename_alike (alike : Alike root tree other) {source destination : Location}
    (fromInside : root <+: source) (toInside : root <+: destination)
    (fromStraight : tree.Straight source) (toStraight : tree.Straight destination) :
    SameEnd (Alike root) (tree.rename source destination) (other.rename source destination) := by
  unfold rename
  refine (SameEnd.self (checkNames source)).bind fun _ _ taken => ?_
  obtain ⟨-, fromTaken⟩ := taken
  refine (SameEnd.self (checkNames destination)).bind fun _ _ taken => ?_
  obtain ⟨-, toTaken⟩ := taken
  refine (alike.holderOf_alike source).bind fun from₁ from₂ ends => ?_
  obtain ⟨sourceHolder, sourceEntries, sourceName⟩ := from₁
  obtain ⟨_, sourceEntries', _⟩ := from₂
  obtain ⟨same, same', held, held'⟩ := ends
  cases same
  cases same'
  refine (alike.holderOf_alike destination).bind fun to₁ to₂ ends => ?_
  obtain ⟨holder, entries, name⟩ := to₁
  obtain ⟨_, entries', _⟩ := to₂
  obtain ⟨same, same', heldTo, heldTo'⟩ := ends
  cases same
  cases same'
  -- In both trees the two entries are what stands at the two paths, which is the same.
  obtain ⟨rfl, stands⟩ := holderOf_ok fromStraight fromTaken held
  obtain ⟨-, stands'⟩ := holderOf_ok (alike.straight fromStraight) fromTaken held'
  obtain ⟨rfl, standsTo⟩ := holderOf_ok toStraight toTaken heldTo
  obtain ⟨-, standsTo'⟩ := holderOf_ok (alike.straight toStraight) toTaken heldTo'
  have looked : lookup sourceEntries' sourceName = lookup sourceEntries sourceName := by
    rw [lookup, lookup, ← at?_child stands, ← at?_child stands', alike.at?_eq fromInside]
  have lookedTo : lookup entries' name = lookup entries name := by
    rw [lookup, lookup, ← at?_child standsTo, ← at?_child standsTo', alike.at?_eq toInside]
  dsimp only
  rw [looked, lookedTo]
  refine (SameEnd.self (lookup sourceEntries sourceName)).bind fun entry _ ends => ?_
  cases ends.1
  cases entry with
  | none => exact .error _
  | some node =>
    refine (SameEnd.self (lookup entries name)).bind fun old _ ends => ?_
    cases ends.1
    split
    · exact .error _
    next apart =>
    split
    · exact .error _
    next apart' =>
    split
    · exact .ok alike
    next differ =>
    have fromBelow : sourceHolder ++ [sourceName] ≠ root := by
      refine ne_root_of_apart toInside differ fun above => apart (List.isPrefixOf_iff_prefix.mpr ?_)
      rwa [List.dropLast_concat] at above
    have toBelow : holder ++ [name] ≠ root := by
      refine ne_root_of_apart fromInside (Ne.symm differ) fun above =>
        apart' (List.isPrefixOf_iff_prefix.mpr ?_)
      rwa [List.dropLast_concat] at above
    have moved := (alike.remove fromInside fromBelow).put toInside toBelow node
    cases old with
    | none => exact .ok moved
    | some old => exact (SameEnd.self (checkReplace node old)).bind fun _ _ _ => .ok moved

end Alike

end FileTree

namespace Resolved

open FileTree (Alike)

variable {sandbox : Sandbox} {tree other : FileTree} {path : Resolved}

/-! ## Operations on confined paths -/

theorem Confined.write_alike (confined : path.Confined sandbox tree) (stands : sandbox.Stands tree)
    (alike : Alike sandbox.root tree other) (bytes : Text.Bytes) :
    SameEnd (Alike sandbox.root) (path.write tree bytes) (path.write other bytes) := by
  rw [write_eq, write_eq, FileTree.writeFile, FileTree.writeFile, alike.writableLocation_eq]
  refine SameEnd.told ?_
  cases opened : tree.writableLocation path.physical with
  | error cause => exact .error cause
  | ok location =>
    obtain ⟨inside, ne⟩ := confined.below stands opened
    exact .ok (alike.put inside ne _)

theorem Confined.createFile_alike (confined : path.Confined sandbox tree)
    (stands : sandbox.Stands tree) (alike : Alike sandbox.root tree other) (trouble : Option Trouble) :
    SameEnd (Alike sandbox.root) (path.createFile tree trouble) (path.createFile other trouble) := by
  unfold createFile FileTree.touchFile
  rw [alike.writableLocation_eq]
  refine SameEnd.told ?_
  cases opened : tree.writableLocation path.physical with
  | error cause => exact .error cause
  | ok location =>
    obtain ⟨inside, ne⟩ := confined.below stands opened
    have same : other.bytesAt? location = tree.bytesAt? location := by
      rw [FileTree.bytesAt?, FileTree.bytesAt?, alike.at?_eq inside]
    match trouble with
    | none | some ⟨some _, _⟩ =>
      dsimp only
      rw [same]
      exact .ok (alike.put inside ne _)
    | some ⟨none, cause⟩ => exact .error _

theorem Confined.createDirectory_alike (confined : path.Confined sandbox tree)
    (stands : sandbox.Stands tree) (alike : Alike sandbox.root tree other) :
    SameEnd (Alike sandbox.root) (path.createDirectory tree) (path.createDirectory other) := by
  unfold createDirectory FileTree.makeDirectory
  rw [alike.locate_eq]
  refine SameEnd.told ?_
  cases located : tree.locate .keep path.physical with
  | error cause => exact .error cause
  | ok place =>
    have within := confined _ _ located
    cases place with
    | found location => exact .error _
    | vacant holder name =>
      have inside : sandbox.root <+: holder ++ [name] :=
        List.IsPrefix.trans within (List.prefix_append holder [name])
      refine .ok (alike.put inside (stands.ne_root fun entries there => ?_) _)
      obtain ⟨others, holds, missing⟩ := FileTree.locate_vacant located
      rw [FileTree.at?_child holds, missing] at there
      cases there

/-- What is removed is the same: an empty directory below the root, or nothing. -/
theorem Secure.removeDirectory_alike (secure : path.Secure sandbox tree)
    (checked : sandbox.resolveVirtual tree path.virtualPath = .ok path)
    (stands : sandbox.Stands tree) (alike : Alike sandbox.root tree other) :
    SameEnd (Alike sandbox.root) (path.removeDirectory tree) (path.removeDirectory other) := by
  unfold removeDirectory
  split
  · exact .error _
  next notRoot =>
  unfold FileTree.removeDirectory
  rw [alike.locate_eq]
  refine SameEnd.told ?_
  cases located : tree.locate .keep path.physical with
  | error cause => exact .error cause
  | ok place =>
    cases place with
    | vacant holder name => exact .error _
    | found location =>
      obtain rfl : location = path.physical := secure.straight.locate located
      dsimp only
      rw [alike.at?_eq secure.inside]
      split
      · exact .error _
      split
      · next empty =>
        have below := physical_ne_root_of_empty stands notRoot checked empty
        exact .ok (alike.remove secure.inside below)
      · exact .error _
      · exact .error _

theorem Secure.removeFile_alike (secure : path.Secure sandbox tree) (stands : sandbox.Stands tree)
    (alike : Alike sandbox.root tree other) :
    SameEnd (Alike sandbox.root) (path.removeFile tree) (path.removeFile other) := by
  unfold removeFile FileTree.removeFile
  rw [alike.locate_eq]
  refine SameEnd.told ?_
  cases located : tree.locate .keep path.physical with
  | error cause => exact .error cause
  | ok place =>
    cases place with
    | vacant holder name => exact .error _
    | found location =>
      obtain rfl : location = path.physical := secure.straight.locate located
      dsimp only
      rw [alike.at?_eq secure.inside]
      split
      · exact .error _
      · next noDirectory => exact .ok (alike.remove secure.inside (stands.ne_root noDirectory))

/-- The bytes that a copy takes are the same. -/
theorem Confined.copied_eq {source : Resolved} (fromConfined : source.Confined sandbox tree)
    (alike : Alike sandbox.root tree other) (path : Resolved) :
    other.copied source.physical path.physical = tree.copied source.physical path.physical := by
  unfold FileTree.copied
  rw [alike.locate_eq, alike.writableLocation_eq]
  cases located : tree.locate .follow source.physical with
  | error cause => rfl
  | ok place =>
    cases place with
    | vacant holder name => rfl
    | found origin =>
      dsimp only
      rw [alike.at?_eq (fromConfined _ _ located)]

theorem Confined.copyTo_alike {source : Resolved} (fromConfined : source.Confined sandbox tree)
    (confined : path.Confined sandbox tree) (stands : sandbox.Stands tree)
    (alike : Alike sandbox.root tree other) :
    SameEnd (fun copied copied' => Alike sandbox.root copied.2 copied'.2) (source.copyTo path tree)
      (source.copyTo path other) := by
  rw [copyTo_eq, copyTo_eq, fromConfined.copied_eq alike path]
  split
  · exact .error _
  · refine (SameEnd.self _).bind fun bytes _ same => ?_
    cases same.1
    exact (confined.write_alike stands alike bytes).map fun _ _ same => same

theorem Secure.moveTo_alike {source : Resolved} (fromSecure : source.Secure sandbox tree)
    (toSecure : path.Secure sandbox tree) (alike : Alike sandbox.root tree other) :
    SameEnd (Alike sandbox.root) (source.moveTo path tree) (source.moveTo path other) := by
  unfold moveTo
  split
  · exact .error _
  · exact (alike.rename_alike fromSecure.inside toSecure.inside fromSecure.straight
      toSecure.straight).told

end Resolved

namespace Operation

open FileTree (Alike)

variable {sandbox : Sandbox} {tree other : FileTree}

/-- **An operation sends the same bytes** in alike trees. -/
theorem sends?_eq (operation : Operation) (confined : ∀ path ∈ operation.paths, path.Confined sandbox tree)
    (alike : Alike sandbox.root tree other) : operation.sends? other = operation.sends? tree := by
  cases operation with
  | copy source destination =>
    dsimp only [sends?]
    rw [(confined source List.mem_cons_self).copied_eq alike]
  | _ => rfl

/-- **An attempt at an operation** on secure paths ends in the same way. -/
theorem attempt_alike (operation : Operation) (secure : ∀ path ∈ operation.paths, path.Secure sandbox tree)
    (checked : ∀ path ∈ operation.paths, sandbox.resolveVirtual tree path.virtualPath = .ok path)
    (stands : sandbox.Stands tree) (alike : Alike sandbox.root tree other) (trouble : Option Trouble) :
    SameAttempt (Alike sandbox.root) (operation.attempt trouble tree) (operation.attempt trouble other) := by
  have confined : ∀ path ∈ operation.paths, path.Confined sandbox tree :=
    fun path mem => (secure path mem).confined stands
  have same := operation.sends?_eq confined alike
  unfold attempt
  rw [same]
  cases sends : operation.sends? tree with
  | some sent =>
    exact .send alike rfl ((confined sent.1 (mem_paths_of_sends sends)).write_alike stands alike) trouble sent.2
  | none =>
    refine .whole alike ?_
    cases operation with
    | write path bytes => cases sends
    | createFile path => exact (confined path (by simp [paths])).createFile_alike stands alike trouble
    | createDirectory path => exact (confined path (by simp [paths])).createDirectory_alike stands alike
    | removeDirectory path =>
      have mem : path ∈ (removeDirectory path).paths := by simp [paths]
      exact (secure path mem).removeDirectory_alike (checked path mem) stands alike
    | removeFile path => exact (secure path (by simp [paths])).removeFile_alike stands alike
    | copy source destination =>
      have copied :=
        (confined source (by simp [paths])).copyTo_alike (confined destination (by simp [paths])) stands alike
      exact copied.map fun _ _ same => same
    | move source destination =>
      exact (secure source (by simp [paths])).moveTo_alike (secure destination (by simp [paths])) alike

end Operation

end ConfinedShell
