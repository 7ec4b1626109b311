import ConfinedShell.Proofs.BareCommands
import ConfinedShell.Proofs.Growth

/-!
# The way to a name

A walk over a path goes through where the beginning of the path leads (`FileTree.Walks.split`). So a virtual path and
the directory above it go together: what the path leads to is the entry of its last name where the path above leads
(`Sandbox.Leads.child`), unless a link has this name. Without such a link a path is resolved to what the path above is
settled on, with the last name behind it (`Sandbox.physical_of_settle`). This holds even if the end of the path is
absent, or if the path is longer than the host takes.
-/

set_option autoImplicit false

namespace ConfinedShell

namespace FileTree

variable {tree : FileTree}

/-- **A walk over a longer path** goes through where the beginning of that path leads. -/
theorem Walks.split {last : LastLink} {links : Nat} {here : Location} {parts rest : List String} {place : Place}
    (longer : tree.Walks last place links here (parts ++ rest)) (more : rest ≠ [])
    (named : last = .create → rest.all String.isEmpty = false) :
    ∃ location left, tree.Walks .follow (.found location) links here parts ∧
      tree.Walks last place left location rest := by
  generalize whole : parts ++ rest = path at longer
  induction longer generalizing parts with
  | @arrives links here path reached =>
    subst whole
    rw [leg_append tree more named] at reached
    split at reached
    · next location arrived => exact ⟨location, links, .arrives arrived, .arrives reached⟩
    · cases reached
    · cases reached
    · cases reached
  | @follows links here holder path left target reached goesOn ih =>
    subst whole
    rw [leg_append tree more named] at reached
    split at reached
    · next location arrived => exact ⟨location, links + 1, .arrives arrived, .follows reached goesOn⟩
    · cases reached
    · next atLink =>
      cases reached
      obtain ⟨location, behind, walks, further⟩ := ih (List.append_assoc _ _ _)
      exact ⟨location, behind, .follows atLink walks, further⟩
    · cases reached

/-- A leg over one name that is kept arrives at the entry of that name, or fails, or there is none. -/
theorem leg_name (tree : FileTree) {name : String} (plain : PlainName name) (here : Location) :
    match tree.leg .keep here [name] with
    | .arrived (.found location) => location = here ++ [name] ∧ name.utf8ByteSize ≤ nameLimit ∧
        ∃ node, tree.at? (here ++ [name]) = some node
    | .atLink _ _ _ => False
    | _ => True := by
  have stays : ¬ (name = "" ∨ name = ".") := fun h => h.elim plain.1 plain.2.1
  rw [leg]
  cases stands : tree.at? here with
  | none => trivial
  | some holder =>
    cases holder with
    | file bytes => trivial
    | link target => trivial
    | directory entries =>
      simp only [if_neg stays, if_neg plain.2.2, reduceCtorEq, false_and, if_false]
      by_cases long : nameLimit < name.utf8ByteSize
      · simp only [if_pos long]
      simp only [if_neg long]
      have entry := at?_child stands name
      cases found : Entries.find? name entries with
      | none => trivial
      | some node => cases node <;> exact ⟨rfl, Nat.not_lt.mp long, _, entry.trans found⟩

/-- So a walk over one name that is kept finds the entry of that name. -/
theorem Walks.name {links : Nat} {here location : Location} {name : String} (plain : PlainName name)
    (walks : tree.Walks .keep (.found location) links here [name]) :
    location = here ++ [name] ∧ name.utf8ByteSize ≤ nameLimit ∧ ∃ node, tree.at? (here ++ [name]) = some node := by
  have ends := tree.leg_name plain here
  cases walks with
  | arrives reached =>
    rw [reached] at ends
    exact ends
  | follows reached =>
    rw [reached] at ends
    exact ends.elim

/-- A path with a name at the end, which is kept, leads to the entry of that name where the path above leads. -/
theorem locate_name {way location : Location} {name : String} (plain : PlainName name)
    (located : tree.locate .keep (way ++ [name]) = .ok (.found location)) :
    ∃ holder, tree.locate .follow way = .ok (.found holder) ∧ location = holder ++ [name] ∧
      name.utf8ByteSize ≤ nameLimit ∧ ∃ node, tree.at? (holder ++ [name]) = some node := by
  obtain ⟨-, -, walks⟩ := locate_ok.mp located
  obtain ⟨holder, left, walksAbove, further⟩ := walks.split (List.cons_ne_nil name []) nofun
  have host := (HostPath.of_locate located).above (List.prefix_append way [name])
  exact ⟨holder, locate_of_walks host.noNul host.short walksAbove, further.name plain⟩

/-- A leg over the name of an entry that is no link arrives at the entry. -/
theorem leg_child {here : Location} {name : String} {node : FileTree} (plain : PlainName name)
    (short : name.utf8ByteSize ≤ nameLimit) (stands : tree.at? (here ++ [name]) = some node)
    (noLink : ∀ target, node ≠ link target) :
    tree.leg .follow here [name] = .arrived (.found (here ++ [name])) := by
  have stays : ¬ (name = "" ∨ name = ".") := fun h => h.elim plain.1 plain.2.1
  obtain ⟨entries, holds⟩ := directory_of_at?_append stands (List.cons_ne_nil name [])
  rw [at?_child holds] at stands
  rw [leg, holds]
  simp only [if_neg stays, if_neg plain.2.2, reduceCtorEq, false_and, if_false, if_neg (Nat.not_lt.mpr short), stands]
  cases node with
  | link target => exact absurd rfl (noLink target)
  | file bytes => rfl
  | directory entries => rfl

/-- A path has a real location when it leads there, and that is no longer than the host takes. -/
theorem realLocation_eq_ok {path location : Location} : tree.realLocation path = .ok location ↔
    tree.locate .follow path = .ok (.found location) ∧ pathBytes location < pathLimit := by
  constructor
  · intro answered
    have located := locate_of_realLocation answered
    refine ⟨located, Nat.not_le.mp fun long => ?_⟩
    rw [realLocation, located] at answered
    simp only [if_pos long, reduceCtorEq] at answered
  · rintro ⟨located, short⟩
    rw [realLocation, located]
    exact if_neg (Nat.not_le.mpr short)

end FileTree

namespace Sandbox

variable {sandbox : Sandbox}

/-! ## Where virtual paths lead -/

/-- **A virtual path leads** to a location by the way that the host takes from the top. -/
def Leads (sandbox : Sandbox) (tree : FileTree) (path : VirtualPath) (location : Location) : Prop :=
  tree.locate .follow (sandbox.root ++ path.segments) = .ok (.found location)

namespace Leads

variable {tree : FileTree} {path : VirtualPath} {location : Location}

/-- A path is resolved to the location that it leads to. -/
theorem physical_eq {resolved : Resolved} (leads : sandbox.Leads tree path location)
    (checked : sandbox.resolveVirtual tree path = .ok resolved) : resolved.physical = location := by
  obtain ⟨-, -, settled⟩ := resolveVirtual_ok checked
  by_cases top : sandbox.root ++ path.segments = []
  · rw [top] at settled
    rw [Leads, top] at leads
    have atTop : tree.locate .follow [] = .ok (.found []) := rfl
    cases atTop.symm.trans leads
    exact (Except.ok.inj settled).symm
  · rw [settle_of_present top (FileTree.present_of_locate leads)] at settled
    obtain ⟨here, answered, same⟩ := map_eq_ok.mp settled
    rw [List.append_nil] at same
    cases leads.symm.trans (FileTree.locate_of_realLocation answered)
    exact same.symm

/-- A path leads to an entry of the directory that the path above leads to. -/
theorem child {name : String} {node : FileTree} (leads : sandbox.Leads tree path location) (segment : IsSegment name)
    (taken : HostName name) (stands : tree.at? (location ++ [name]) = some node)
    (noLink : ∀ target, node ≠ .link target) (fits : sandbox.Fits (path.child name)) :
    sandbox.Leads tree (path.child name) (location ++ [name]) := by
  obtain ⟨names, -, walks⟩ := FileTree.locate_ok.mp leads
  have plain : PlainName name := ⟨segment.1, segment.2.1, segment.2.2.1⟩
  have step := FileTree.leg_child plain taken.1 stands noLink
  have written : sandbox.root ++ (path.child name).segments = sandbox.root ++ path.segments ++ [name] := by
    rw [path.segments_child segment, List.append_assoc]
  rw [Fits, written] at fits
  rw [Leads, written]
  refine FileTree.locate_of_walks (fun other mem => ?_) fits (walks.append (List.cons_ne_nil _ _) nofun step)
  rcases List.mem_append.mp mem with mem | mem
  · exact FileTree.checkNames_ok names other mem
  · exact List.mem_singleton.mp mem ▸ taken.2

end Leads

/-- **A virtual path reaches** a location when it is resolved and leads there. -/
def Reaches (sandbox : Sandbox) (tree : FileTree) (path : VirtualPath) (location : Location) : Prop :=
  ∃ resolved, sandbox.resolveVirtual tree path = .ok resolved ∧
    tree.locate .follow resolved.physical = .ok (.found location)

variable {tree : FileTree} {path : VirtualPath}

/-- What is appended to a path that is settled stands behind what the path is settled on. -/
theorem settle_append (tree : FileTree) (upward tail : List String) :
    settle tree upward tail = (settle tree upward []).map (· ++ tail) := by
  induction upward generalizing tail with
  | nil => rfl
  | cons name upward ih =>
    rw [settle, settle]
    split
    · cases tree.realLocation (name :: upward).reverse <;> simp [Except.map]
    · rw [ih (name :: tail), ih [name]]
      cases settle tree upward [] <;> simp [Except.map]

/-- A path that leads to a location which the host takes is settled on it. -/
theorem settle_of_locate {way location : Location} (located : tree.locate .follow way = .ok (.found location))
    (short : pathBytes location < pathLimit) : settle tree way.reverse [] = .ok location := by
  have answered := FileTree.realLocation_eq_ok.mpr ⟨located, short⟩
  by_cases top : way = []
  · subst top
    have atTop : tree.locate .follow [] = .ok (.found []) := rfl
    cases atTop.symm.trans located
    rfl
  · rw [settle_of_present top (FileTree.present_of_locate located), answered]
    exact congrArg Except.ok (List.append_nil location)

/-- **A path with a name** is resolved to what the path above is settled on, with the name behind, unless it leads to
a link of this name. -/
theorem physical_of_settle (stands : sandbox.Stands tree) {name : String} {resolved : Resolved}
    (named : path.fileName? = some name) (checked : sandbox.resolveVirtual tree path = .ok resolved) :
    (∃ above, settle tree (sandbox.root ++ path.parent.segments).reverse [] = .ok above ∧
        resolved.physical = above ++ [name]) ∨
      (∃ holder target, sandbox.Leads tree path.parent holder ∧ tree.at? (holder ++ [name]) = some (.link target)) ∧
        tree.Real resolved.physical := by
  obtain ⟨-, -, settled⟩ := resolveVirtual_ok checked
  have plain : PlainName name := path.plain name (List.mem_of_getLast? named)
  rw [VirtualPath.segments_of_fileName? named, ← List.append_assoc] at settled
  cases there : tree.present (sandbox.root ++ path.parent.segments ++ [name]) with
  | false =>
    rw [settle_of_absent there, settle_append] at settled
    obtain ⟨above, settledAbove, same⟩ := map_eq_ok.mp settled
    exact .inl ⟨above, settledAbove, same.symm⟩
  | true =>
    rw [settle_of_present (by simp) there] at settled
    obtain ⟨physical, answered, same⟩ := map_eq_ok.mp settled
    rw [List.append_nil] at same
    obtain ⟨followed, fits⟩ := FileTree.realLocation_eq_ok.mp answered
    obtain ⟨kept, located⟩ := FileTree.present_iff.mp there
    obtain ⟨holder, leadsAbove, rfl, short, node, stands'⟩ := FileTree.locate_name plain located
    by_cases isLink : ∃ target, node = .link target
    · obtain ⟨target, rfl⟩ := isLink
      have real := (FileTree.locate_ok.mp followed).2.2.real (stands.real.above List.nil_prefix)
      exact .inr ⟨⟨holder, target, leadsAbove, stands'⟩, same ▸ real⟩
    · have host := FileTree.HostPath.of_locate located
      obtain ⟨-, -, walksAbove⟩ := FileTree.locate_ok.mp leadsAbove
      have step := FileTree.leg_child plain short stands' (not_exists.mp isLink)
      have leads : tree.locate .follow (sandbox.root ++ path.parent.segments ++ [name]) =
          .ok (.found (holder ++ [name])) :=
        FileTree.locate_of_walks host.noNul host.short (walksAbove.append (List.cons_ne_nil name []) nofun step)
      cases leads.symm.trans followed
      have fitsAbove := Nat.lt_of_le_of_lt (FileTree.pathBytes_mono (List.prefix_append holder [name])) fits
      exact .inl ⟨holder, settle_of_locate leadsAbove fitsAbove, same.symm⟩

/-- A path that is settled below the root is resolved. -/
theorem resolveVirtual_of_settle {physical : Location} (inside : sandbox.root <+: physical)
    (settled : settle tree (sandbox.root ++ path.segments).reverse [] = .ok physical) :
    sandbox.resolveVirtual tree path = .ok ⟨path, physical⟩ := by
  rw [resolveVirtual, settled]
  exact if_pos (List.isPrefixOf_iff_prefix.mpr inside)

end Sandbox

end ConfinedShell
