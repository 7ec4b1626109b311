import ConfinedShell.Proofs.Bare

/-!
# Operations on a sandbox on its own

An operation by paths that fit ends in the same way below the root of a sandbox and in the subtree alone: it fails
for the same reason, or it leaves below the root what it leaves there (`Sandbox.Holds.perform`). The place that a
call acts on is the same one, with the root in front of it, and it is never the root itself.

One call could tell them apart. A move onto the root is refused as one onto a directory that is not empty, and at
the top, which has no name, as one onto something that is in use. No command asks for it, since a destination that
is a directory stands for an entry in it; so the statement asks that nothing is moved onto the root.
-/

set_option autoImplicit false

namespace ConfinedShell

open FileTree (at?_under at?_put_under at?_remove_under)

/-- **A tree grows out of a subtree** that stands at a location in it. -/
def FileTree.Rooted (root : Location) (tree sub : FileTree) : Prop :=
  tree.at? root = some sub

/-- Behind a root, one location lies in another one when it does without the root. -/
theorem FileTree.isPrefixOf_append (root one other : Location) :
    (root ++ one).isPrefixOf (root ++ other) = one.isPrefixOf other := by
  rw [Bool.eq_iff_iff, List.isPrefixOf_iff_prefix, List.isPrefixOf_iff_prefix, List.prefix_append_right_inj]

namespace Sandbox

/-- A call on the host is told in terms of the virtual path alone. -/
theorem told_bare {sandbox : Sandbox} {path : VirtualPath} {α : Type} {related : α → α → Prop}
    {outcome inner : Except HostError α} (same : SameEnd related outcome inner) :
    SameEnd related ((sandbox.spelt path).told outcome) ((bare.spelt path).told inner) := by
  cases same with
  | error cause => exact .error _
  | ok same => exact .ok same

namespace Holds

variable {sandbox : Sandbox} {tree sub : FileTree} {path : VirtualPath}

/-! ## Operations -/

/-- A file is opened for writing at the same place, which is not the root. -/
theorem writableLocation (holds : sandbox.Holds tree sub) (fits : sandbox.Fits path) :
    SameEnd (fun location inner => location = sandbox.root ++ inner ∧ inner ≠ [])
      (tree.writableLocation (sandbox.root ++ path.segments)) (sub.writableLocation path.segments) := by
  rw [FileTree.writableLocation, FileTree.writableLocation, holds.locate fits]
  cases sub.locate .create path.segments with
  | error cause => exact .error _
  | ok place =>
    cases place with
    | vacant holder name => exact .ok ⟨List.append_assoc _ _ _, List.concat_ne_nil _ _⟩
    | found location =>
      dsimp only [Except.map, Place.under]
      rw [at?_under holds.held]
      split
      · next bytes isFile =>
        refine .ok ⟨rfl, ?_⟩
        rintro rfl
        obtain ⟨entries, rfl⟩ := holds.isDirectory
        cases isFile
      · exact .error _

/-- A file is written in the subtree. -/
theorem write (holds : sandbox.Holds tree sub) (fits : sandbox.Fits path) (bytes : Text.Bytes) :
    SameEnd (FileTree.Rooted sandbox.root) ((sandbox.spelt path).write tree bytes)
      ((Sandbox.bare.spelt path).write sub bytes) := by
  rw [Resolved.write_eq, Resolved.write_eq]
  refine told_bare ?_
  refine (holds.writableLocation fits).map fun location inner same => ?_
  obtain ⟨rfl, below⟩ := same
  exact at?_put_under holds.held below _

/-- A file is made in the subtree, or it keeps its bytes. -/
theorem createFile (holds : sandbox.Holds tree sub) (fits : sandbox.Fits path) (trouble : Option Trouble) :
    SameEnd (FileTree.Rooted sandbox.root) ((sandbox.spelt path).createFile tree trouble)
      ((Sandbox.bare.spelt path).createFile sub trouble) := by
  refine told_bare ?_
  have writable := holds.writableLocation fits
  unfold FileTree.touchFile
  rw [physical_spelt, physical_bare]
  generalize tree.writableLocation (sandbox.root ++ path.segments) = one at writable ⊢
  generalize sub.writableLocation path.segments = other at writable ⊢
  cases writable with
  | error cause => exact .error _
  | ok same =>
    obtain ⟨rfl, below⟩ := same
    match trouble with
    | none | some ⟨some _, _⟩ =>
      refine .ok ?_
      rw [FileTree.bytesAt?, at?_under holds.held]
      exact at?_put_under holds.held below _
    | some ⟨none, cause⟩ => exact .error _

/-- A directory is made in the subtree. -/
theorem createDirectory (holds : sandbox.Holds tree sub) (fits : sandbox.Fits path) :
    SameEnd (FileTree.Rooted sandbox.root) ((sandbox.spelt path).createDirectory tree)
      ((Sandbox.bare.spelt path).createDirectory sub) := by
  refine told_bare ?_
  rw [FileTree.makeDirectory, FileTree.makeDirectory, physical_bare, physical_spelt, holds.locate fits]
  cases sub.locate .keep path.segments with
  | error cause => exact .error _
  | ok place =>
    cases place with
    | found location => exact .error _
    | vacant holder name =>
      refine .ok ?_
      rw [List.append_assoc]
      exact at?_put_under holds.held (List.concat_ne_nil _ _) _

/-- What is removed is an empty directory in the subtree, the root never. -/
theorem removeDirectory (holds : sandbox.Holds tree sub) (fits : sandbox.Fits path) :
    SameEnd (FileTree.Rooted sandbox.root) ((sandbox.spelt path).removeDirectory tree)
      ((Sandbox.bare.spelt path).removeDirectory sub) := by
  rw [Resolved.removeDirectory, Resolved.removeDirectory]
  show SameEnd _ (if path.isRoot then _ else _) (if path.isRoot then _ else _)
  split
  · exact .error _
  next notRoot =>
  refine told_bare ?_
  rw [FileTree.removeDirectory, FileTree.removeDirectory, physical_bare, physical_spelt, holds.locate fits]
  cases located : sub.locate .keep path.segments with
  | error cause => exact .error _
  | ok place =>
    cases place with
    | vacant holder name => exact .error _
    | found location =>
      obtain rfl : location = path.segments := (holds.bare.linkless.straight path).locate located
      have below : path.segments ≠ [] := fun none => notRoot (List.isEmpty_iff.mpr none)
      dsimp only [Except.map, Place.under]
      rw [at?_under holds.held, if_neg (by simp [below]), if_neg (by simp [below])]
      split
      · exact .ok (at?_remove_under holds.held below)
      · exact .error _
      · exact .error _

/-- What is removed is a file in the subtree. -/
theorem removeFile (holds : sandbox.Holds tree sub) (fits : sandbox.Fits path) :
    SameEnd (FileTree.Rooted sandbox.root) ((sandbox.spelt path).removeFile tree)
      ((Sandbox.bare.spelt path).removeFile sub) := by
  refine told_bare ?_
  rw [FileTree.removeFile, FileTree.removeFile, physical_bare, physical_spelt, holds.locate fits]
  cases sub.locate .keep path.segments with
  | error cause => exact .error _
  | ok place =>
    cases place with
    | vacant holder name => exact .error _
    | found location =>
      dsimp only [Except.map, Place.under]
      rw [at?_under holds.held]
      split
      · exact .error _
      · next noDirectory =>
        refine .ok (at?_remove_under holds.held ?_)
        rintro rfl
        obtain ⟨entries, rfl⟩ := holds.isDirectory
        exact noDirectory entries rfl

/-- A copy takes the same bytes. -/
theorem copied (holds : sandbox.Holds tree sub) {source destination : VirtualPath} (fromFits : sandbox.Fits source)
    (toFits : sandbox.Fits destination) :
    tree.copied (sandbox.spelt source).physical (sandbox.spelt destination).physical =
      sub.copied (Sandbox.bare.spelt source).physical (Sandbox.bare.spelt destination).physical := by
  rw [FileTree.copied, FileTree.copied, physical_bare, physical_bare, physical_spelt, physical_spelt,
    holds.locate fromFits]
  cases sub.locate .follow source.segments with
  | error cause => rfl
  | ok place =>
    cases place with
    | vacant holder name => rfl
    | found origin =>
      dsimp only [Except.map, Place.under]
      rw [at?_under holds.held]
      split
      · have writable := holds.writableLocation toFits
        generalize tree.writableLocation (sandbox.root ++ destination.segments) = one at writable
        generalize sub.writableLocation destination.segments = other at writable
        cases writable with
        | error cause => rfl
        | ok same =>
          obtain ⟨rfl, -⟩ := same
          simp only [List.append_cancel_left_eq]
      · rfl

/-- The same bytes are copied, unless both paths are the same. -/
theorem copyTo (holds : sandbox.Holds tree sub) {source destination : VirtualPath} (fromFits : sandbox.Fits source)
    (toFits : sandbox.Fits destination) :
    SameEnd (fun copied inner => FileTree.Rooted sandbox.root copied.2 inner.2)
      ((sandbox.spelt source).copyTo (sandbox.spelt destination) tree)
      ((Sandbox.bare.spelt source).copyTo (Sandbox.bare.spelt destination) sub) := by
  rw [Resolved.copyTo_eq, Resolved.copyTo_eq]
  by_cases same : source = destination
  · rw [if_pos (physical_spelt_inj.mpr same), if_pos (physical_spelt_inj.mpr same)]
    exact .error _
  rw [if_neg (mt physical_spelt_inj.mp same), if_neg (mt physical_spelt_inj.mp same),
    holds.copied fromFits toFits]
  show SameEnd _ ((Sandbox.bare.spelt destination).told _ >>= _) _
  refine (SameEnd.self _).bind fun bytes _ same => ?_
  cases same.1
  exact (holds.write toFits bytes).map fun _ _ rooted => rooted

/-! ## Moves -/

/-- What is moved from or to is looked up in the same directory. -/
theorem holderOf (holds : sandbox.Holds tree sub) (fits : sandbox.Fits path) (below : path.segments ≠ []) :
    tree.holderOf (sandbox.root ++ path.segments) =
      (sub.holderOf path.segments).map fun held => (sandbox.root ++ held.1, held.2) := by
  have plain : ∀ name ∈ path.segments.dropLast, PlainName name :=
    fun name mem => path.plain name ((List.dropLast_sublist _).subset mem)
  have last : (sandbox.root ++ path.segments).getLast? = path.segments.getLast? := by
    rw [List.getLast?_append, List.getLast?_eq_some_getLast below, Option.some_or]
  rw [FileTree.holderOf, FileTree.holderOf, checkLength_append fits, last, List.dropLast_append_of_ne_nil below,
    holds.walk .follow linkLimit plain]
  cases FileTree.checkLength path.segments with
  | error cause => rfl
  | ok _ =>
    cases path.segments.getLast? with
    | none => rfl
    | some name =>
      cases sub.walk .follow linkLimit [] path.segments.dropLast with
      | error cause => rfl
      | ok place =>
        cases place with
        | vacant holder missing => rfl
        | found holder =>
          dsimp only [bind, Except.bind, Except.map, Place.under]
          rw [at?_under holds.held]
          cases sub.at? holder with
          | none => rfl
          | some node => cases node <;> rfl

/-- **The same node is moved to the same place**, none of them the root. -/
theorem rename (holds : sandbox.Holds tree sub) {source destination : VirtualPath} (fromFits : sandbox.Fits source)
    (toFits : sandbox.Fits destination) (fromBelow : source.segments ≠ []) (toBelow : destination.segments ≠ []) :
    SameEnd (FileTree.Rooted sandbox.root)
      (tree.rename (sandbox.root ++ source.segments) (sandbox.root ++ destination.segments))
      (sub.rename source.segments destination.segments) := by
  rw [FileTree.rename, FileTree.rename, holds.checkNames, holds.checkNames, holds.holderOf fromFits fromBelow,
    holds.holderOf toFits toBelow]
  refine (SameEnd.self (FileTree.checkNames source.segments)).bind fun _ _ _ => ?_
  refine (SameEnd.self (FileTree.checkNames destination.segments)).bind fun _ _ _ => ?_
  cases sub.holderOf source.segments with
  | error cause => exact .error _
  | ok held =>
    obtain ⟨sourceHolder, sourceEntries, sourceName⟩ := held
    cases sub.holderOf destination.segments with
    | error cause => exact .error _
    | ok held =>
      obtain ⟨holder, entries, name⟩ := held
      refine (SameEnd.self (FileTree.lookup sourceEntries sourceName)).bind fun entry other same => ?_
      obtain rfl : other = entry := same.1
      cases other with
      | none => exact .error _
      | some node =>
        refine (SameEnd.self (FileTree.lookup entries name)).bind fun old other same => ?_
        obtain rfl : other = old := same.1
        dsimp only
        simp only [List.append_assoc, FileTree.isPrefixOf_append, List.append_cancel_left_eq]
        have removed := at?_remove_under holds.held (List.concat_ne_nil sourceName sourceHolder)
        have moved := at?_put_under removed (List.concat_ne_nil name holder) node
        split
        · exact .error _
        split
        · exact .error _
        split
        · exact .ok holds.held
        cases other with
        | none => exact .ok moved
        | some old => exact (SameEnd.self (FileTree.checkReplace node old)).bind fun _ _ _ => .ok moved

/-- A file or a directory is moved in the subtree, the root never. -/
theorem moveTo (holds : sandbox.Holds tree sub) {source destination : VirtualPath} (fromFits : sandbox.Fits source)
    (toFits : sandbox.Fits destination) (toBelow : destination.segments ≠ []) :
    SameEnd (FileTree.Rooted sandbox.root) ((sandbox.spelt source).moveTo (sandbox.spelt destination) tree)
      ((Sandbox.bare.spelt source).moveTo (Sandbox.bare.spelt destination) sub) := by
  rw [Resolved.moveTo, Resolved.moveTo]
  show SameEnd _ (if source.isRoot then _ else _) (if source.isRoot then _ else _)
  split
  · exact .error _
  · next notRoot =>
    have fromBelow : source.segments ≠ [] := fun none => notRoot (List.isEmpty_iff.mpr none)
    exact told_bare (holds.rename fromFits toFits fromBelow toBelow)

end Holds

end Sandbox

/-! ## All operations -/

/-- A checked path as the bare sandbox has it. -/
def Resolved.bare (path : Resolved) : Resolved :=
  Sandbox.bare.spelt path.virtualPath

namespace Operation

/-- An operation on other paths. -/
def map (f : Resolved → Resolved) : Operation → Operation
  | .write path bytes => .write (f path) bytes
  | .createFile path => .createFile (f path)
  | .createDirectory path => .createDirectory (f path)
  | .removeDirectory path => .removeDirectory (f path)
  | .removeFile path => .removeFile (f path)
  | .copy source destination => .copy (f source) (f destination)
  | .move source destination => .move (f source) (f destination)

theorem paths_map (f : Resolved → Resolved) (operation : Operation) :
    (operation.map f).paths = operation.paths.map f := by
  cases operation <;> rfl

/-- **An operation suits a sandbox** when its paths are spelt and fit, and nothing is moved onto the root. -/
structure Suits (sandbox : Sandbox) (operation : Operation) : Prop where
  spelt : ∀ path ∈ operation.paths, path = sandbox.spelt path.virtualPath
  fits : ∀ path ∈ operation.paths, sandbox.Fits path.virtualPath
  notOnto : operation.isMove = true → ∀ path ∈ operation.paths.getLast?, path.virtualPath.segments ≠ []

/-- An operation by virtual paths that fit suits a sandbox. -/
theorem suits_of_paths {sandbox : Sandbox} (operation : Operation) (paths : List VirtualPath)
    (acts : operation.paths = paths.map sandbox.spelt) (fits : ∀ path ∈ paths, sandbox.Fits path)
    (notOnto : operation.isMove = true → ∀ path ∈ paths.getLast?, path.segments ≠ []) :
    operation.Suits sandbox := by
  refine ⟨fun path mem => ?_, fun path mem => ?_, fun moving path last => ?_⟩
  · rw [acts] at mem
    obtain ⟨virtual, -, rfl⟩ := List.mem_map.mp mem
    rfl
  · rw [acts] at mem
    obtain ⟨virtual, listed, rfl⟩ := List.mem_map.mp mem
    exact fits virtual listed
  · rw [acts, List.getLast?_map] at last
    obtain ⟨virtual, isLast, rfl⟩ := Option.map_eq_some_iff.mp last
    exact notOnto moving virtual isLast

end Operation

namespace Sandbox.Holds

variable {sandbox : Sandbox} {tree sub : FileTree}

/-- **An operation ends in the same way in the subtree alone**, and the sandbox holds the subtree that this
leaves. The trouble that may keep a file from being opened is the same. -/
theorem performIn (holds : sandbox.Holds tree sub) {operation : Operation} (suits : operation.Suits sandbox)
    (trouble : Option Trouble) :
    SameEnd sandbox.Holds (operation.performIn trouble tree)
      ((operation.map Resolved.bare).performIn trouble sub) := by
  obtain ⟨spelt, fits, notOnto⟩ := suits
  have named (path : Resolved) (mem : path ∈ operation.paths) : ∃ virtual, path = sandbox.spelt virtual :=
    ⟨path.virtualPath, spelt path mem⟩
  have rooted : SameEnd (FileTree.Rooted sandbox.root) (operation.performIn trouble tree)
      ((operation.map Resolved.bare).performIn trouble sub) := by
    cases operation with
    | write path bytes =>
      obtain ⟨virtual, rfl⟩ := named path List.mem_cons_self
      exact holds.write (fits _ List.mem_cons_self) bytes
    | createFile path =>
      obtain ⟨virtual, rfl⟩ := named path List.mem_cons_self
      exact holds.createFile (fits _ List.mem_cons_self) trouble
    | createDirectory path =>
      obtain ⟨virtual, rfl⟩ := named path List.mem_cons_self
      exact holds.createDirectory (fits _ List.mem_cons_self)
    | removeDirectory path =>
      obtain ⟨virtual, rfl⟩ := named path List.mem_cons_self
      exact holds.removeDirectory (fits _ List.mem_cons_self)
    | removeFile path =>
      obtain ⟨virtual, rfl⟩ := named path List.mem_cons_self
      exact holds.removeFile (fits _ List.mem_cons_self)
    | copy source destination =>
      have last : destination ∈ (Operation.copy source destination).paths := List.mem_cons_of_mem _ List.mem_cons_self
      obtain ⟨origin, rfl⟩ := named source List.mem_cons_self
      obtain ⟨virtual, rfl⟩ := named destination last
      exact (holds.copyTo (fits _ List.mem_cons_self) (fits _ last)).map fun _ _ rooted => rooted
    | move source destination =>
      have last : destination ∈ (Operation.move source destination).paths := List.mem_cons_of_mem _ List.mem_cons_self
      have toBelow := notOnto rfl destination rfl
      obtain ⟨origin, rfl⟩ := named source List.mem_cons_self
      obtain ⟨virtual, rfl⟩ := named destination last
      exact holds.moveTo (fits _ List.mem_cons_self) (fits _ last) toBelow
  rcases rooted.cases with ⟨cause, failed, failed'⟩ | ⟨after, inner, performed, performed', rooted⟩
  · rw [failed, failed']
    exact .error cause
  · have speltBare : ∀ path ∈ (operation.map Resolved.bare).paths,
        path = Sandbox.bare.spelt path.virtualPath := by
      intro path mem
      rw [Operation.paths_map] at mem
      obtain ⟨original, -, rfl⟩ := List.mem_map.mp mem
      rfl
    rw [performed, performed']
    exact .ok ⟨holds.linkless.perform spelt (Operation.perform_of_performIn performed), holds.taken, rooted,
      holds.bare.linkless.wellFormed_perform holds.wellFormed speltBare (Operation.perform_of_performIn performed')⟩

theorem perform (holds : sandbox.Holds tree sub) {operation : Operation} (suits : operation.Suits sandbox) :
    SameEnd sandbox.Holds (operation.perform tree) ((operation.map Resolved.bare).perform sub) := by
  rw [← Operation.performIn_none, ← Operation.performIn_none]
  exact holds.performIn suits none

/-- The same bytes are sent. -/
theorem sends? (holds : sandbox.Holds tree sub) {operation : Operation} (suits : operation.Suits sandbox) :
    (operation.map Resolved.bare).sends? sub =
      (operation.sends? tree).map fun sent => (sent.1.bare, sent.2) := by
  obtain ⟨spelt, fits, -⟩ := suits
  cases operation with
  | copy source destination =>
    have last : destination ∈ (Operation.copy source destination).paths := List.mem_cons_of_mem _ List.mem_cons_self
    obtain ⟨origin, rfl⟩ : ∃ virtual, source = sandbox.spelt virtual := ⟨_, spelt source List.mem_cons_self⟩
    obtain ⟨virtual, rfl⟩ : ∃ virtual, destination = sandbox.spelt virtual := ⟨_, spelt destination last⟩
    have copied : tree.copied (sandbox.spelt origin).physical (sandbox.spelt virtual).physical =
        sub.copied (Sandbox.bare.spelt origin).physical (Sandbox.bare.spelt virtual).physical :=
      holds.copied (fits _ List.mem_cons_self) (fits _ last)
    have same : (sandbox.spelt origin).physical = (sandbox.spelt virtual).physical ↔
        (Sandbox.bare.spelt origin).physical = (Sandbox.bare.spelt virtual).physical :=
      physical_spelt_inj.trans physical_spelt_inj.symm
    dsimp only [Operation.map, Operation.sends?, Resolved.bare, virtualPath_spelt]
    rw [copied]
    by_cases onto : (sandbox.spelt origin).physical = (sandbox.spelt virtual).physical
    · rw [if_pos onto, if_pos (same.mp onto)]
      rfl
    · rw [if_neg onto, if_neg (mt same.mpr onto), Option.map_map]
      rfl
  | _ => rfl

/-- **An attempt at an operation ends in the same way in the subtree alone.** -/
theorem attempt (holds : sandbox.Holds tree sub) {operation : Operation} (suits : operation.Suits sandbox)
    (trouble : Option Trouble) :
    SameAttempt sandbox.Holds (operation.attempt trouble tree)
      ((operation.map Resolved.bare).attempt trouble sub) := by
  rw [Operation.attempt, Operation.attempt, holds.sends? suits]
  cases sends : operation.sends? tree with
  | none => exact .whole holds (holds.performIn suits trouble)
  | some sent =>
    have mem := Operation.mem_paths_of_sends sends
    dsimp only [Option.map]
    have named : sent.1.bare.text = sent.1.text := rfl
    refine .send holds named (fun bytes => ?_) trouble sent.2
    have writes : (Operation.write sent.1 bytes).Suits sandbox :=
      Operation.suits_of_paths _ [sent.1.virtualPath] (congrArg ([·]) (suits.spelt _ mem))
        (List.forall_mem_singleton.mpr (suits.fits _ mem)) fun moves => by cases moves
    exact holds.perform writes

end Sandbox.Holds

end ConfinedShell
