import ConfinedShell.Proofs.Leading
import ConfinedShell.Proofs.Moving

/-!
# Changes that open no way

A change of the tree is **steady** when what is at a location where something was has the same shape, or is a file now
(`FileTree.Steady`). Other than in a tree that has grown, what was there may be gone. A removal is a steady change, and
so is a move, unless a link is moved.

A path that led to something and leads to a directory afterwards leads to the same location (`FileTree.Steady.locate`),
since it cannot have been turned aside on the way. The same is true of what a path is settled on
(`Sandbox.settle_of_steady`): how much of the path is followed is decided by the tree, but if what it is settled on is
there at all, then as much was followed as the host takes, and that is the same in every tree.
-/

set_option autoImplicit false

namespace ConfinedShell

namespace FileTree

variable {before after tree : FileTree} {here : Location}

/-! ## Steady changes -/

/-- **A change is steady** when what is where something was has the same shape, or is a file. -/
def Steady (before after : FileTree) : Prop :=
  ∀ location node now, before.at? location = some node → after.at? location = some now →
    now.kind.shape = node.kind.shape ∨ ∃ bytes, now = file bytes

/-- A leg that comes somewhere past a first part starts in a directory. -/
theorem directory_of_comes {last : LastLink} {part : String} {rest : List String}
    (comes : (tree.leg last here (part :: rest)).Comes) : ∃ entries, tree.at? here = some (directory entries) := by
  rw [leg] at comes
  cases stands : tree.at? here with
  | none => rw [stands] at comes; cases comes
  | some node =>
    rw [stands] at comes
    cases node with
    | file bytes => cases comes
    | link target => cases comes
    | directory entries => exact ⟨entries, rfl⟩

/-- The first leg of a walk that finds something comes somewhere. -/
theorem Walks.comes {last : LastLink} {links : Nat} {location : Location} {parts : List String}
    (walks : tree.Walks last (.found location) links here parts) : (tree.leg last here parts).Comes := by
  cases walks with
  | arrives reached =>
    rw [reached]
    exact .found location
  | @follows _ _ holder _ rest target reached _ =>
    rw [reached]
    exact .atLink holder target rest

/-- A walk is over when its first leg arrives, -/
theorem Walks.eq_of_arrived {last : LastLink} {links : Nat} {parts : List String} {place reached : Place}
    (walks : tree.Walks last place links here parts) (arrived : tree.leg last here parts = .arrived reached) :
    place = reached := by
  cases walks with
  | arrives leg => exact Leg.arrived.inj (leg.symm.trans arrived)
  | follows leg => cases leg.symm.trans arrived

/-- and it goes on when the leg is at a link. -/
theorem Walks.of_atLink {last : LastLink} {links : Nat} {holder : Location} {parts rest : List String}
    {target : String} {place : Place} (walks : tree.Walks last place (links + 1) here parts)
    (atLink : tree.leg last here parts = .atLink holder target rest) :
    tree.Walks last place links (linkBase holder target) (linkParts target ++ rest) := by
  cases walks with
  | arrives leg => cases leg.symm.trans atLink
  | follows leg goesOn =>
    cases leg.symm.trans atLink
    exact goesOn

/-- A leg that comes somewhere from a file stays there. -/
theorem leg_of_file {parts : List String} {bytes : Text.Bytes} (isFile : tree.at? here = some (file bytes))
    (comes : (tree.leg .follow here parts).Comes) : tree.leg .follow here parts = .arrived (.found here) := by
  cases parts with
  | nil => rfl
  | cons part rest =>
    obtain ⟨entries, stands⟩ := directory_of_comes comes
    cases isFile.symm.trans stands

namespace Steady

variable {one two : Location}

/-- A leg that came somewhere and still does comes to the same, or it ends at a file. -/
theorem leg (steady : Steady before after) {parts : List String} (came : (before.leg .follow here parts).Comes)
    (comes : (after.leg .follow here parts).Comes) :
    after.leg .follow here parts = before.leg .follow here parts ∨
      ∃ location bytes, after.leg .follow here parts = .arrived (.found location) ∧
        after.at? location = some (file bytes) := by
  induction parts generalizing here with
  | nil => exact .inl rfl
  | cons part rest ih =>
    obtain ⟨entries, stood⟩ := directory_of_comes came
    obtain ⟨inner, stands⟩ := directory_of_comes comes
    rw [FileTree.leg, stood] at came
    rw [FileTree.leg, stands] at comes
    rw [FileTree.leg, FileTree.leg, stood, stands]
    by_cases stays : part = "" ∨ part = "."
    · simp only [if_pos stays] at came comes ⊢
      exact ih came comes
    by_cases up : part = ".."
    · simp only [if_neg stays, if_pos up] at came comes ⊢
      exact ih came comes
    by_cases long : nameLimit < part.utf8ByteSize
    · simp only [if_neg stays, if_neg up, if_pos long, reduceCtorEq, false_and, if_false] at came
      cases came
    simp only [if_neg stays, if_neg up, if_neg long, reduceCtorEq, false_and, if_false, and_false] at came comes ⊢
    cases found : Entries.find? part entries with
    | none =>
      rw [found] at came
      cases rest <;> cases came
    | some node =>
      rw [found] at came
      cases foundNow : Entries.find? part inner with
      | none =>
        rw [foundNow] at comes
        cases rest <;> cases comes
      | some now =>
        rw [foundNow] at comes
        have there : after.at? (here ++ [part]) = some now := (at?_child stands part).trans foundNow
        rcases steady _ _ _ ((at?_child stood part).trans found) there with shape | ⟨bytes, rfl⟩
        · cases node <;> cases now <;> cases shape
          · exact ih came comes
          · exact .inl rfl
          · exact ih came comes
        · exact .inr ⟨_, bytes, leg_of_file there comes, there⟩

/-- **A walk that found something** and still does finds it at the same location, or it finds a file. -/
theorem walks (steady : Steady before after) {links : Nat} {parts : List String}
    (walked : before.Walks .follow (.found one) links here parts)
    (walks : after.Walks .follow (.found two) links here parts) :
    one = two ∨ ∃ bytes, after.at? two = some (file bytes) := by
  induction walked with
  | arrives reached =>
    rcases steady.leg (reached ▸ .found one) walks.comes with same | ⟨location, bytes, ends, isFile⟩
    · exact .inl (Place.found.inj (walks.eq_of_arrived (same.trans reached))).symm
    · cases walks.eq_of_arrived ends
      exact .inr ⟨bytes, isFile⟩
  | @follows _ _ holder _ left target reached _ ih =>
    rcases steady.leg (reached ▸ .atLink holder target left) walks.comes with same | ⟨location, bytes, ends, isFile⟩
    · exact ih (walks.of_atLink (same.trans reached))
    · cases walks.eq_of_arrived ends
      exact .inr ⟨bytes, isFile⟩

/-- **A path that led to something** and leads to a directory leads to the same location. -/
theorem locate (steady : Steady before after) {path : Location} {entries : Entries}
    (led : before.locate .follow path = .ok (.found one)) (leads : after.locate .follow path = .ok (.found two))
    (isDirectory : after.at? two = some (directory entries)) : one = two := by
  rcases steady.walks (locate_ok.mp led).2.2 (locate_ok.mp leads).2.2 with same | ⟨bytes, isFile⟩
  · exact same
  · cases isDirectory.symm.trans isFile

end Steady

/-! ## What is left of a tree -/

/-- A node of the same kind is of the same shape. -/
theorem shape_of_kindAt? {node now : FileTree} (kept : after.kindAt? here = before.kindAt? here)
    (stood : before.at? here = some node) (stands : after.at? here = some now) : now.kind.shape = node.kind.shape := by
  rw [kindAt?_of_at? stood, kindAt?_of_at? stands] at kept
  rw [Option.some.inj kept]

/-- Where the kind has stayed, something is. -/
theorem exists_of_kindAt? {node : FileTree} (kept : after.kindAt? here = before.kindAt? here)
    (stood : before.at? here = some node) : ∃ now, after.at? here = some now := by
  rw [kindAt?_of_at? stood] at kept
  obtain ⟨now, stands, -⟩ := Option.map_eq_some_iff.mp kept
  exact ⟨now, stands⟩

/-- Dropping a node is a steady change. -/
theorem steady_remove (tree : FileTree) (location : Location) : Steady tree (tree.remove location) := by
  intro here node now stood stands
  rcases kindAt?_remove tree location here with kept | ⟨-, gone⟩
  · exact .inl (shape_of_kindAt? kept stood stands)
  · rw [kindAt?_of_at? stands] at gone
    cases gone

/-- What takes the place of another node has its shape, or is a file, when it is no link. -/
theorem shape_of_checkReplace {node old : FileTree} (noLink : ∀ target, node ≠ link target)
    (fits : checkReplace node old = .ok ()) : node.kind.shape = old.kind.shape ∨ ∃ bytes, node = file bytes := by
  cases node with
  | file bytes => exact .inr ⟨bytes, rfl⟩
  | link target => exact absurd rfl (noLink target)
  | directory entries =>
    cases old with
    | file bytes => cases fits
    | link target => cases fits
    | directory inner => exact .inl rfl

namespace Moved

variable {source target : Location} (moved : Moved before after source target)
include moved

/-- What was in the place that a node was moved to was the one that it has replaced. -/
theorem replaced {rest : Location} {old : FileTree} (stood : before.at? (target ++ rest) = some old) :
    rest = [] ∧ ∃ node, before.at? source = some node ∧ after.at? target = some node ∧
      checkReplace node old = .ok () := by
  obtain ⟨node, found, there, fits⟩ := moved.whole
  by_cases top : rest = []
  · subst top
    rw [List.append_nil] at stood
    exact ⟨rfl, node, found, there, fits old stood⟩
  · obtain ⟨entries, isDirectory⟩ := directory_of_at?_append stood top
    obtain ⟨-, rfl⟩ := checkReplace_directory (fits _ isDirectory)
    have bare := kindAt?_below_empty isDirectory top
    rw [kindAt?_of_at? stood] at bare
    cases bare

/-- Moving a node that is no link is a steady change. -/
theorem steady (noLink : ∀ text, before.at? source ≠ some (link text)) : Steady before after := by
  intro here node now stood stands
  by_cases below : source <+: here
  · -- What was moved is not there any more,
    obtain ⟨rest, rfl⟩ := below
    rw [at?_append_of_none moved.gone rest] at stands
    cases stands
  by_cases inside : target <+: here
  · -- and where it is now, there was nothing else than what it has replaced.
    obtain ⟨rest, rfl⟩ := inside
    obtain ⟨rfl, moving, found, there, fits⟩ := moved.replaced stood
    rw [List.append_nil] at stands
    cases there.symm.trans stands
    exact shape_of_checkReplace (fun text isLink => noLink text (isLink ▸ found)) fits
  · exact .inl (shape_of_kindAt? (moved.elsewhere here below inside) stood stands)

/-- Where something was that is not moved, something is. -/
theorem stays {node : FileTree} (apart : ¬ source <+: here) (stood : before.at? here = some node) :
    ∃ now, after.at? here = some now := by
  by_cases inside : target <+: here
  · obtain ⟨rest, rfl⟩ := inside
    obtain ⟨rfl, moving, -, there, -⟩ := moved.replaced stood
    exact ⟨moving, by rw [List.append_nil]; exact there⟩
  · exact exists_of_kindAt? (moved.elsewhere here apart inside) stood

end Moved

end FileTree

namespace Sandbox

variable {before after tree : FileTree} {path physical found : Location}

/-! ## What paths are settled on -/

/-- **A path is followed as far as the host takes it**, when what it is settled on is there: the first name that is
appended makes the path too long. -/
theorem exists_way_of_settle (top : tree.Real []) (plain : ∀ name ∈ path, PlainName name)
    (settled : settle tree path.reverse [] = .ok physical)
    (located : tree.locate .follow physical = .ok (.found found)) :
    ∃ way left here, path = way ++ left ∧ tree.locate .follow way = .ok (.found here) ∧ physical = here ++ left ∧
      ∀ name rest, left = name :: rest → pathLimit ≤ pathBytes (way ++ [name]) := by
  obtain ⟨way, left, here, split, followed, rfl, stops⟩ := exists_of_settle (fun _ _ nil => by cases nil) settled
  rw [List.reverse_reverse] at split
  rw [List.append_nil] at located stops ⊢
  subst split
  refine ⟨way, left, here, rfl, followed, rfl, ?_⟩
  rintro name rest rfl
  refine Nat.not_lt.mp fun short => ?_
  -- All names behind `way` are there, so the first one is present by a path that the host takes.
  have real := (FileTree.locate_ok.mp followed).2.2.real top
  have straight := FileTree.straight_append followed real
    (fun other mem => plain other (List.mem_append_right way mem)) short stops
  obtain rfl : found = here ++ name :: rest := straight.locate located
  obtain ⟨taken, -, node, stands⟩ := straight.locate_found_iff.mp located
  obtain ⟨entries, holds⟩ := FileTree.directory_of_at?_append stands (List.cons_ne_nil name rest)
  rw [List.append_cons] at stands
  obtain ⟨entry, standsThere⟩ := FileTree.exists_at?_of_append stands
  rw [FileTree.at?_child holds] at standsThere
  have there := FileTree.present_child followed holds standsThere (plain name (by simp)) (taken name (by simp)) short
  exact Bool.noConfusion (there.symm.trans (stops name rest rfl))

/-- A path that the host takes leads to what it is settled on, when that is there. -/
theorem locate_of_settle (top : tree.Real []) (plain : ∀ name ∈ path, PlainName name)
    (short : pathBytes path < pathLimit) (settled : settle tree path.reverse [] = .ok physical)
    (located : tree.locate .follow physical = .ok (.found found)) :
    found = physical ∧ tree.locate .follow path = .ok (.found physical) := by
  obtain ⟨way, left, here, rfl, followed, rfl, long⟩ := exists_way_of_settle top plain settled located
  cases left with
  | nil =>
    simp only [List.append_nil] at located ⊢
    have real := (FileTree.locate_ok.mp followed).2.2.real top
    exact ⟨real.straight.locate located, followed⟩
  | cons name rest =>
    have inside : way ++ [name] <+: way ++ name :: rest := ⟨rest, by simp⟩
    exact absurd (long name rest rfl) (Nat.not_le.mpr (Nat.lt_of_le_of_lt (FileTree.pathBytes_mono inside) short))

/-- What is followed of a path is within what is followed of it elsewhere, as far as the host takes that. -/
theorem prefix_of_overlong {way left way' left' : Location} (same : way ++ left = way' ++ left')
    (long : ∀ name rest, left = name :: rest → pathLimit ≤ pathBytes (way ++ [name]))
    (short : pathBytes way' < pathLimit) : way' <+: way := by
  rcases List.append_eq_append_iff.mp same with ⟨more, rfl, rest⟩ | ⟨more, rfl, -⟩
  · cases more with
    | nil => exact ⟨[], by simp⟩
    | cons name others =>
      have inside : way ++ [name] <+: way ++ name :: others := ⟨others, by simp⟩
      exact absurd (long name (others ++ left') rest)
        (Nat.not_le.mpr (Nat.lt_of_le_of_lt (FileTree.pathBytes_mono inside) short))
  · exact List.prefix_append _ _

/-- A real location that leads on to a directory is one. -/
theorem directory_of_locate {here left : Location} {entries : Entries} (real : tree.Real here)
    (located : tree.locate .follow (here ++ left) = .ok (.found found))
    (isDirectory : tree.at? found = some (.directory entries)) :
    ∃ others, tree.at? here = some (.directory others) := by
  cases left with
  | nil =>
    rw [List.append_nil] at located
    obtain rfl : found = here := real.straight.locate located
    exact ⟨entries, isDirectory⟩
  | cons name rest =>
    obtain ⟨names, -, walks⟩ := FileTree.locate_ok.mp located
    obtain ⟨holder, links, walksHere, further⟩ := walks.split (List.cons_ne_nil name rest) nofun
    have noNul : ∀ other ∈ here, '\x00' ∉ other.toList := fun other mem =>
      FileTree.checkNames_ok names other (List.mem_append_left _ mem)
    obtain rfl : holder = here := real.straight.walks noNul walksHere
    exact FileTree.directory_of_comes further.comes

/-- **What a path was settled on** is what it is settled on after a steady change, when something was there and a
directory is, and it leads to the same location. -/
theorem settle_of_steady (steady : before.Steady after) (topBefore : before.Real []) (top : after.Real [])
    (plain : ∀ name ∈ path, PlainName name) {physicalBefore foundBefore : Location} {entries : Entries}
    (settledBefore : settle before path.reverse [] = .ok physicalBefore)
    (locatedBefore : before.locate .follow physicalBefore = .ok (.found foundBefore))
    (settled : settle after path.reverse [] = .ok physical)
    (located : after.locate .follow physical = .ok (.found found))
    (isDirectory : after.at? found = some (.directory entries)) :
    physicalBefore = physical ∧ foundBefore = found := by
  obtain ⟨way, left, here, rfl, followed, rfl, long⟩ :=
    exists_way_of_settle topBefore plain settledBefore locatedBefore
  obtain ⟨way', left', here', split, followed', rfl, long'⟩ := exists_way_of_settle top plain settled located
  have short := FileTree.checkLength_ok (FileTree.locate_ok.mp followed).2.1
  have short' := FileTree.checkLength_ok (FileTree.locate_ok.mp followed').2.1
  have within : way <+: way' := prefix_of_overlong split.symm long' short
  have around : way' <+: way := prefix_of_overlong split long short'
  obtain rfl : way = way' := within.eq_of_length_le around.length_le
  obtain rfl := List.append_cancel_left split
  have real := (FileTree.locate_ok.mp followed').2.2.real top
  obtain ⟨others, holds⟩ := directory_of_locate real located isDirectory
  obtain rfl : here = here' := steady.locate followed followed' holds
  exact ⟨rfl, steady.locate locatedBefore located isDirectory⟩

namespace Reaches

variable {sandbox : Sandbox} {path : VirtualPath} {one two : Location} {entries : Entries}

/-- A path that was settled on the way to a location reaches no other directory after a steady change. -/
theorem eq_of_settle (reaches : sandbox.Reaches after path two)
    (isDirectory : after.at? two = some (.directory entries)) (steady : before.Steady after)
    (stands : sandbox.Stands before) {physical : Location}
    (settled : settle before (sandbox.root ++ path.segments).reverse [] = .ok physical)
    (located : before.locate .follow physical = .ok (.found one)) : one = two := by
  obtain ⟨resolved, checked, leads⟩ := reaches
  obtain ⟨-, -, settledNow⟩ := resolveVirtual_ok checked
  exact (settle_of_steady steady (stands.real.above List.nil_prefix) (FileTree.real_top leads isDirectory)
    (stands.plain_append path) settled located settledNow leads isDirectory).2

/-- A path that led to something and reaches a directory reached what it led to. -/
theorem of_leads (reaches : sandbox.Reaches after path two) (isDirectory : after.at? two = some (.directory entries))
    (steady : before.Steady after) (stands : sandbox.Stands before) (leads : sandbox.Leads before path one) :
    sandbox.Reaches before path one := by
  obtain ⟨resolved, checked, located⟩ := reaches
  obtain ⟨-, inside, settled⟩ := resolveVirtual_ok checked
  obtain ⟨-, length, walks⟩ := FileTree.locate_ok.mp leads
  obtain ⟨rfl, followed⟩ := locate_of_settle (FileTree.real_top located isDirectory) (stands.plain_append path)
    (FileTree.checkLength_ok length) settled located
  obtain rfl : one = resolved.physical := steady.locate leads followed isDirectory
  have host := FileTree.HostPath.of_locate located
  have real := walks.real (stands.real.above List.nil_prefix)
  obtain ⟨node, stood, -⟩ := real.stands
  have taken (name : String) (mem : name ∈ resolved.physical) : HostName name :=
    ⟨walks.short nofun name mem, host.noNul name mem⟩
  exact ⟨_, resolveVirtual_of_settle inside (settle_of_locate leads host.short),
    real.straight.locate_found_iff.mpr ⟨taken, host.short, node, stood⟩⟩

end Reaches

end Sandbox

end ConfinedShell
