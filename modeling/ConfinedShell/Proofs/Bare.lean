import ConfinedShell.Proofs.WellFormed

/-!
# A sandbox on its own

What a sandbox without links does is decided by the subtree at its root alone. Take that subtree for a tree of its
own, with the **bare** sandbox over it, whose root is the top (`Sandbox.Holds`). A path of plain names leads below
the root to where it leads in the subtree, the root in front of it (`Sandbox.Holds.locate`): the way to the root
holds no surprises, and behind it no link leads back out. What is left of the root is its length, and a path that
fits is short enough in both.

So a question about a path is answered in the same way, and an operation ends in the same way and leaves what the
bare one leaves (`Sandbox.Holds.perform`).
-/

set_option autoImplicit false

namespace ConfinedShell

/-- The place that a place in a subtree is, below the location of the subtree. -/
def Place.under (root : Location) : Place → Place
  | .found location => .found (root ++ location)
  | .vacant holder name => .vacant (root ++ holder) name

namespace FileTree

variable {tree sub : FileTree} {root : Location}

/-! ## Walks in a subtree -/

/-- How far a leg in a subtree comes, below the location of the subtree. -/
def under (root : Location) : Leg → Leg
  | .arrived place => .arrived (place.under root)
  | .atLink holder target rest => .atLink (root ++ holder) target rest
  | .failed error => .failed error

/-- What stands in a subtree stands below it. -/
theorem at?_under (held : tree.at? root = some sub) (location : Location) :
    tree.at? (root ++ location) = sub.at? location := by
  rw [at?_append, held]
  rfl

/-- **A leg of plain names stays in the subtree** that it starts in. -/
theorem leg_under (held : tree.at? root = some sub) (last : LastLink) (here : Location) {parts : List String}
    (plain : ∀ name ∈ parts, PlainName name) :
    tree.leg last (root ++ here) parts = under root (sub.leg last here parts) := by
  induction parts generalizing here with
  | nil => rfl
  | cons part rest ih =>
    obtain ⟨first, plain⟩ := List.forall_mem_cons.mp plain
    have stays : ¬ (part = "" ∨ part = ".") := fun h => h.elim first.1 first.2.1
    have goesOn := ih (here ++ [part]) plain
    rw [← List.append_assoc] at goesOn
    rw [leg, leg, at?_under held]
    cases sub.at? here with
    | none => rfl
    | some node =>
      cases node with
      | file bytes => rfl
      | link target => rfl
      | directory entries =>
        simp only [if_neg stays, if_neg first.2.2]
        split
        · rfl
        split
        · rfl
        cases Entries.find? part entries with
        | none => cases rest <;> rfl
        | some node =>
          cases node with
          | file bytes => exact goesOn
          | directory inner => exact goesOn
          | link target =>
            dsimp only
            split
            · rw [under, Place.under, List.append_assoc]
            · rfl

/-- A leg that comes to a link has found one. -/
theorem exists_of_atLink {last : LastLink} {here holder : Location} {parts rest : List String} {target : String}
    (reached : tree.leg last here parts = .atLink holder target rest) :
    ∃ location, tree.at? location = some (link target) := by
  induction parts generalizing here with
  | nil => cases reached
  | cons part parts ih =>
    rw [leg] at reached
    split at reached
    · cases reached
    · cases reached
    · cases reached
    next entries stands =>
    split at reached
    · exact ih reached
    split at reached
    · exact ih reached
    split at reached
    · cases reached
    split at reached
    · cases reached
    split at reached
    · split at reached <;> cases reached
    · next found =>
      split at reached
      · cases reached
      · cases reached
        exact ⟨holder ++ [part], (at?_child stands part).trans found⟩
    · exact ih reached
    · exact ih reached

/-- A walk that comes to no link is one leg. -/
theorem walk_of_leg {last : LastLink} {here : Location} {parts : List String}
    (noLink : ∀ holder target rest, tree.leg last here parts ≠ .atLink holder target rest) (links : Nat) :
    tree.walk last links here parts =
      match tree.leg last here parts with
      | .arrived place => .ok place
      | .failed error => .error error
      | .atLink _ _ _ => .error .tooManyLinks := by
  rw [walk]
  cases reached : tree.leg last here parts with
  | arrived place => rfl
  | failed error => rfl
  | atLink holder target rest => exact absurd reached (noLink holder target rest)

/-- A path is written with at least as many bytes as its end. -/
theorem pathBytes_of_append (root parts : Location) : pathBytes parts ≤ pathBytes (root ++ parts) := by
  have grows : ∀ bytes, bytes ≤ root.foldr (fun name rest => 1 + name.utf8ByteSize + rest) bytes := by
    intro bytes
    induction root with
    | nil => exact Nat.le_refl bytes
    | cons name root ih =>
      simp only [List.foldr_cons]
      omega
  unfold pathBytes
  rw [List.foldr_append]
  have := grows (parts.foldr (fun name rest => 1 + name.utf8ByteSize + rest) 0)
  omega

/-- An entry that is set below a location is set in the subtree there. -/
theorem at?_put_under (held : tree.at? root = some sub) {rest : Location} (below : rest ≠ []) (new : FileTree) :
    (tree.put (root ++ rest) new).at? root = some (sub.put rest new) := by
  rw [at?_put_append below, held]
  rfl

/-- An entry that is dropped below a location is dropped in the subtree there. -/
theorem at?_remove_under (held : tree.at? root = some sub) {rest : Location} (below : rest ≠ []) :
    (tree.remove (root ++ rest)).at? root = some (sub.remove rest) := by
  rw [at?_remove_append below, held]
  rfl

end FileTree

namespace Sandbox

open FileTree (leg_under at?_under)

variable {sandbox : Sandbox} {tree sub : FileTree} {path : VirtualPath}

/-- **The bare sandbox**, whose root is the top. -/
def bare : Sandbox := ⟨[]⟩

theorem physical_bare (path : VirtualPath) : (bare.spelt path).physical = path.segments := rfl

/-- A path that fits is short enough with the root and without it. -/
theorem checkLength_append (fits : sandbox.Fits path) :
    FileTree.checkLength (sandbox.root ++ path.segments) = FileTree.checkLength path.segments := by
  have short := Nat.lt_of_le_of_lt (FileTree.pathBytes_of_append sandbox.root path.segments) fits
  rw [FileTree.checkLength, FileTree.checkLength, if_neg (Nat.not_le.mpr fits), if_neg (Nat.not_le.mpr short)]

/-- **A sandbox holds a subtree**: no link stands in the root, the host takes the names that lead to it, and what
stands there is the subtree, which is well formed. -/
structure Holds (sandbox : Sandbox) (tree sub : FileTree) : Prop where
  linkless : sandbox.Linkless tree
  taken : ∀ name ∈ sandbox.root, HostName name
  held : tree.at? sandbox.root = some sub
  wellFormed : sub.WellFormed

namespace Holds

/-- The subtree is a directory. -/
theorem isDirectory (holds : sandbox.Holds tree sub) : ∃ entries, sub = .directory entries := by
  obtain ⟨entries, stands⟩ := holds.linkless.stands.isDirectory
  rw [holds.held] at stands
  exact ⟨entries, Option.some.inj stands⟩

/-- There is no link in the subtree. -/
theorem noLink (holds : sandbox.Holds tree sub) (location : Location) (target : String) :
    sub.at? location ≠ some (.link target) := by
  intro isLink
  rw [← at?_under holds.held] at isLink
  exact holds.linkless.noLink _ target (List.prefix_append _ _) (FileTree.kindAt?_eq_link.mpr isLink)

/-- The bare sandbox holds the subtree as well. -/
theorem bare (holds : sandbox.Holds tree sub) : bare.Holds sub sub := by
  obtain ⟨entries, isDirectory⟩ := holds.isDirectory
  have stands : Sandbox.bare.Stands sub :=
    ⟨(fun _ mem => nomatch mem), entries, (FileTree.at?_nil sub).trans (congrArg some isDirectory)⟩
  have noLink : ∀ location target, Sandbox.bare.root <+: location →
      sub.kindAt? location ≠ some (.link target) :=
    fun location target _ isLink => holds.noLink location target (FileTree.kindAt?_eq_link.mp isLink)
  exact ⟨⟨stands, noLink⟩, (fun _ mem => nomatch mem), FileTree.at?_nil sub, holds.wellFormed⟩

/-! ## Where paths lead -/

/-- The way to the root leads there. -/
theorem leg_root (holds : sandbox.Holds tree sub) (last : LastLink) :
    tree.leg last [] sandbox.root = .arrived (.found sandbox.root) := by
  have real := holds.linkless.stands.real
  have noNul : ∀ name ∈ sandbox.root, '\x00' ∉ name.toList := fun name mem => (holds.taken name mem).2
  have found := FileTree.leg_found_iff last [] sandbox.root real.straight (fun _ mem => nomatch mem) noNul
    ⟨tree, FileTree.at?_nil tree⟩
  exact found.mpr ⟨fun name mem => (holds.taken name mem).1, sub, holds.held⟩

/-- **A walk behind the root stays in the subtree.** -/
theorem walk (holds : sandbox.Holds tree sub) (last : LastLink) (links : Nat) {parts : List String}
    (plain : ∀ name ∈ parts, PlainName name) :
    tree.walk last links [] (sandbox.root ++ parts) =
      (sub.walk last links [] parts).map (Place.under sandbox.root) := by
  have reached : tree.leg last [] (sandbox.root ++ parts) =
      FileTree.under sandbox.root (sub.leg last [] parts) := by
    by_cases more : parts = []
    · subst more
      have arrives := holds.leg_root last
      simpa [FileTree.leg, FileTree.under, Place.under] using arrives
    · have named : last = .create → parts.all String.isEmpty = false := by
        intro _
        obtain ⟨name, rest, rfl⟩ := List.exists_cons_of_ne_nil more
        have filled : name.isEmpty = false := by simpa using (plain name List.mem_cons_self).1
        rw [List.all_cons, filled, Bool.false_and]
      have further := FileTree.leg_append tree more named [] sandbox.root
      rw [holds.leg_root] at further
      have inside := leg_under holds.held last [] plain
      rw [List.append_nil] at inside
      exact further.trans inside
  have noLink : ∀ holder target rest, sub.leg last [] parts ≠ .atLink holder target rest := by
    intro holder target rest atLink
    obtain ⟨location, isLink⟩ := FileTree.exists_of_atLink atLink
    exact holds.noLink location target isLink
  have noLinkBelow : ∀ holder target rest,
      tree.leg last [] (sandbox.root ++ parts) ≠ .atLink holder target rest := by
    intro holder target rest atLink
    rw [reached] at atLink
    cases leg : sub.leg last [] parts with
    | arrived place => rw [leg] at atLink; cases atLink
    | failed error => rw [leg] at atLink; cases atLink
    | atLink holder target rest => exact noLink holder target rest leg
  rw [FileTree.walk_of_leg noLink, FileTree.walk_of_leg noLinkBelow, reached]
  cases sub.leg last [] parts <;> rfl

/-- A path is handed to the host behind the root as it is without the root. -/
theorem checkNames (holds : sandbox.Holds tree sub) (parts : List String) :
    FileTree.checkNames (sandbox.root ++ parts) = FileTree.checkNames parts := by
  have clean : (sandbox.root.any fun name => name.toList.contains '\x00') = false := by
    rw [Bool.eq_false_iff]
    intro any
    obtain ⟨name, mem, nul⟩ := List.any_eq_true.mp any
    exact (holds.taken name mem).2 (by simpa using nul)
  rw [FileTree.checkNames, FileTree.checkNames, List.any_append, clean, Bool.false_or]

/-- **A path that fits leads below the root to where it leads in the subtree.** -/
theorem locate (holds : sandbox.Holds tree sub) (fits : sandbox.Fits path) (last : LastLink) :
    tree.locate last (sandbox.root ++ path.segments) =
      (sub.locate last path.segments).map (Place.under sandbox.root) := by
  rw [FileTree.locate, FileTree.locate, holds.checkNames, checkLength_append fits,
    holds.walk last linkLimit path.plain]
  cases FileTree.checkNames path.segments with
  | error cause => rfl
  | ok _ =>
    cases FileTree.checkLength path.segments with
    | error cause => rfl
    | ok _ => cases sub.walk last linkLimit [] path.segments <;> rfl

/-- **A path that fits leads to the same node.** -/
theorem stat (holds : sandbox.Holds tree sub) (fits : sandbox.Fits path) :
    tree.stat (sandbox.root ++ path.segments) = sub.stat path.segments := by
  rw [FileTree.stat, FileTree.stat, holds.locate fits]
  cases sub.locate .follow path.segments with
  | error cause => rfl
  | ok place =>
    cases place with
    | vacant holder name => rfl
    | found location =>
      dsimp only [Except.map, Place.under]
      rw [at?_under holds.held]

/-! ## Questions -/

/-- A path leads to something in both or in neither. -/
theorem exists? (holds : sandbox.Holds tree sub) (fits : sandbox.Fits path) :
    (sandbox.spelt path).exists? tree = (Sandbox.bare.spelt path).exists? sub :=
  congrArg (fun asked : Except HostError FileTree => asked.toOption.isSome) (holds.stat fits)

/-- A path leads to a directory in both or in neither. -/
theorem pathIsDirectory (holds : sandbox.Holds tree sub) (fits : sandbox.Fits path) :
    (sandbox.spelt path).isDirectory tree = (Sandbox.bare.spelt path).isDirectory sub :=
  congrArg (fun asked : Except HostError FileTree => asked.toOption.any FileTree.isDirectory) (holds.stat fits)

/-- A path leads to a regular file in both or in neither. -/
theorem isRegular (holds : sandbox.Holds tree sub) (fits : sandbox.Fits path) :
    (sandbox.spelt path).isRegular tree = (Sandbox.bare.spelt path).isRegular sub :=
  congrArg (fun asked : Except HostError FileTree => asked.toOption.any FileTree.isRegular) (holds.stat fits)

/-- A path reads as the same text, or it fails to be read for the same reason. -/
theorem readText (holds : sandbox.Holds tree sub) (fits : sandbox.Fits path) :
    (sandbox.spelt path).readText tree = (Sandbox.bare.spelt path).readText sub := by
  have asked : tree.readFile (sandbox.spelt path).physical = sub.readFile (Sandbox.bare.spelt path).physical := by
    rw [FileTree.readFile, FileTree.readFile, physical_spelt, holds.stat fits]
    rfl
  rw [Resolved.readText, Resolved.readText, asked]
  rfl

/-- An entry of a directory in the subtree is listed as the same sort in both. -/
theorem entryKind (holds : sandbox.Holds tree sub) {entries : Entries}
    (isDirectory : sub.at? path.segments = some (.directory entries)) {entry : String × FileTree}
    (mem : entry ∈ entries) :
    (sandbox.spelt path).entryKind tree entry.1 entry.2 =
      (Sandbox.bare.spelt path).entryKind sub entry.1 entry.2 := by
  have wellFormed := holds.wellFormed path.segments entries isDirectory
  have found := Entries.find?_of_mem wellFormed.distinct mem
  have noLink : ∀ target, entry.2 ≠ .link target := by
    intro target isLink
    have there := (FileTree.at?_child isDirectory entry.1).trans found
    rw [isLink] at there
    exact holds.noLink _ target there
  have listed := entryKind_of_noLink holds.linkless.stands
    ((at?_under holds.held path.segments).trans isDirectory) wellFormed mem noLink
  exact listed.trans (entryKind_of_noLink holds.bare.linkless.stands isDirectory wellFormed mem noLink).symm

/-- A directory is listed in the same way, in the order in which the storage has it. -/
theorem readDirectory (holds : sandbox.Holds tree sub) (fits : sandbox.Fits path) (storage : Storage) :
    (sandbox.spelt path).readDirectory storage tree =
      (Sandbox.bare.spelt path).readDirectory (storage.below sandbox.root) sub := by
  have asked : tree.readDirectory (sandbox.spelt path).physical =
      sub.readDirectory (Sandbox.bare.spelt path).physical := by
    rw [FileTree.readDirectory, FileTree.readDirectory, physical_spelt, holds.stat fits]
    rfl
  rw [Resolved.readDirectory, Resolved.readDirectory, holds.isRegular fits, asked]
  split
  · rfl
  cases read : sub.readDirectory (Sandbox.bare.spelt path).physical with
  | error cause => rfl
  | ok entries =>
    have isDirectory : sub.at? path.segments = some (.directory entries) := by
      rw [FileTree.readDirectory] at read
      split at read
      · cases read
      · next reached =>
        cases read
        obtain ⟨location, located, stands⟩ := FileTree.stat_ok.mp reached
        obtain rfl : location = path.segments := (holds.bare.linkless.straight path).locate located
        exact stands
      · cases read
    refine congrArg Except.ok (List.map_congr_left fun entry mem => ?_)
    exact congrArg (Entry.mk (shownName entry.1)) (holds.entryKind isDirectory (Entries.mem_ranked.mp mem))

end Holds

end Sandbox

end ConfinedShell
