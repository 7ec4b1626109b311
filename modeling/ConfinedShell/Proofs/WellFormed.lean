import ConfinedShell.Proofs.LinkFree
import ConfinedShell.Proofs.Listing

/-!
# Well-formed trees

A tree is **well formed** when in each of its directories no name stands twice and every one is plain
(`FileTree.WellFormed`), in whatever order the entries are. So an entry is found by its name. An entry that is set
takes the place of the one of its name, and one that is dropped leaves a gap, so what is done by virtual paths keeps
a tree well formed (`Sandbox.Linkless.wellFormed_perform`).
-/

set_option autoImplicit false

namespace ConfinedShell

namespace Entries

variable {entries : Entries} {name : String} {node : FileTree}

/-- A name that is not found stands nowhere. -/
theorem not_mem_of_find? (missing : find? name entries = none) : name ∉ entries.map (·.1) := by
  induction entries with
  | nil => exact List.not_mem_nil
  | cons entry rest ih =>
    rw [find?] at missing
    split at missing
    · cases missing
    next differ =>
    rw [List.map_cons, List.mem_cons]
    exact fun either => either.elim (fun same => differ same.symm) (ih missing)

/-- What stands among the entries once one is set. -/
theorem mem_insert {entry : String × FileTree} (mem : entry ∈ insert name node entries) :
    entry = (name, node) ∨ entry ∈ entries := by
  induction entries with
  | nil => exact .inl (List.mem_singleton.mp mem)
  | cons first rest ih =>
    rw [insert] at mem
    split at mem
    · rcases List.mem_cons.mp mem with same | mem
      · exact .inl same
      · exact .inr (List.mem_cons_of_mem _ mem)
    split at mem
    · exact List.mem_cons.mp mem
    · rcases List.mem_cons.mp mem with same | mem
      · exact .inr (same ▸ List.mem_cons_self)
      · exact (ih mem).imp id (List.mem_cons_of_mem _)

/-- An entry that is set takes the place of the one of its name. -/
theorem WellFormed.insert (wellFormed : entries.WellFormed) (plain : PlainName name) :
    (Entries.insert name node entries).WellFormed := by
  refine ⟨?_, fun entry mem => ?_⟩
  · obtain ⟨distinct, -⟩ := wellFormed
    induction entries with
    | nil => simp [Entries.insert]
    | cons first rest ih =>
      obtain ⟨absent, others⟩ := List.nodup_cons.mp distinct
      rw [Entries.insert]
      split
      · next same => exact List.nodup_cons.mpr ⟨same ▸ absent, others⟩
      next differ =>
      split
      · next before =>
        refine List.nodup_cons.mpr ⟨fun mem => ?_, distinct⟩
        rcases List.mem_cons.mp mem with same | mem
        · exact differ same.symm
        · exact not_mem_of_find? (Option.isNone_iff_eq_none.mp before.2) mem
      · refine List.nodup_cons.mpr ⟨fun listed => ?_, ih others⟩
        obtain ⟨entry, mem, same⟩ := List.mem_map.mp listed
        rcases mem_insert mem with rfl | mem
        · exact differ same.symm
        · exact absent (same ▸ List.mem_map_of_mem mem)
  · rcases mem_insert mem with rfl | mem
    · exact plain
    · exact wellFormed.plain entry mem

/-- What is left when an entry is dropped is well formed. -/
theorem WellFormed.erase (wellFormed : entries.WellFormed) : (Entries.erase name entries).WellFormed :=
  ⟨wellFormed.distinct.sublist (List.filter_sublist.map _),
    fun entry mem => wellFormed.plain entry (List.mem_filter.mp mem).1⟩

end Entries

namespace FileTree

variable {tree new : FileTree} {location : Location}

/-- **A tree is well formed** when the entries of each directory in it are. -/
def WellFormed (tree : FileTree) : Prop :=
  ∀ location (entries : Entries), tree.at? location = some (directory entries) → entries.WellFormed

/-- What stands in a well-formed tree is well formed. -/
theorem WellFormed.below (wellFormed : tree.WellFormed) {node : FileTree} (found : tree.at? location = some node) :
    node.WellFormed := by
  intro rest entries stands
  refine wellFormed (location ++ rest) entries ?_
  rw [at?_append, found]
  exact stands

theorem wellFormed_file (bytes : Text.Bytes) : (file bytes).WellFormed := by
  intro location entries stands
  cases location <;> cases stands

/-- A directory is well formed when its entries are and what they hold is. -/
theorem wellFormed_directory {entries : Entries} (wellFormed : entries.WellFormed)
    (inner : ∀ name node, Entries.find? name entries = some node → node.WellFormed) :
    (directory entries).WellFormed := by
  intro location others stands
  cases location with
  | nil =>
    cases stands
    exact wellFormed
  | cons name rest =>
    obtain ⟨node, found, below⟩ := Option.bind_eq_some_iff.mp stands
    exact inner name node found rest others below

theorem wellFormed_empty : (directory []).WellFormed :=
  wellFormed_directory ⟨List.nodup_nil, fun _ mem => nomatch mem⟩ fun _ _ found => nomatch found

/-- What an entry of a well-formed directory holds is well formed. -/
theorem WellFormed.of_find? {entries : Entries} (wellFormed : (directory entries).WellFormed) {name : String}
    {node : FileTree} (found : Entries.find? name entries = some node) : node.WellFormed :=
  wellFormed.below ((at?_child (at?_nil _) name).trans found)

/-- A directory stays well formed when an entry is set in it. -/
theorem WellFormed.insert {entries : Entries} (wellFormed : (directory entries).WellFormed) {name : String}
    (plain : PlainName name) (node : new.WellFormed) : (directory (Entries.insert name new entries)).WellFormed := by
  refine wellFormed_directory ((wellFormed [] entries rfl).insert plain) fun other inner found => ?_
  by_cases same : other = name
  · rw [same, Entries.find?_insert_self] at found
    exact Option.some.inj found ▸ node
  · rw [Entries.find?_insert_of_ne same] at found
    exact wellFormed.of_find? found

/-- **A tree stays well formed when an entry is set** by plain names. -/
theorem WellFormed.put (wellFormed : tree.WellFormed) (node : new.WellFormed)
    (plain : ∀ name ∈ location, PlainName name) :
    (tree.put location new).WellFormed := by
  fun_induction FileTree.put tree location new with
  | case1 => exact node
  | case2 entries name new => exact wellFormed.insert (plain name List.mem_cons_self) node
  | case3 entries name rest new _ inner found ih =>
    have names := List.forall_mem_cons.mp plain
    exact wellFormed.insert names.1 (ih (wellFormed.of_find? found) node names.2)
  | case4 => exact wellFormed
  | case5 => exact wellFormed

/-- **A tree stays well formed when an entry is dropped.** -/
theorem WellFormed.remove (wellFormed : tree.WellFormed) (plain : ∀ name ∈ location, PlainName name) :
    (tree.remove location).WellFormed := by
  fun_induction FileTree.remove tree location with
  | case1 => exact wellFormed
  | case2 entries name =>
    refine wellFormed_directory (wellFormed [] entries rfl).erase fun other inner found => ?_
    by_cases same : other = name
    · rw [same, Entries.find?_erase_self] at found
      cases found
    · rw [Entries.find?_erase_of_ne same] at found
      exact wellFormed.of_find? found
  | case3 entries name rest _ inner found ih =>
    have names := List.forall_mem_cons.mp plain
    exact wellFormed.insert names.1 (ih (wellFormed.of_find? found) names.2)
  | case4 => exact wellFormed
  | case5 => exact wellFormed

end FileTree

/-- **An operation by paths that are spelt keeps a tree well formed.** -/
theorem Sandbox.Linkless.wellFormed_perform {sandbox : Sandbox} {tree after : FileTree} {operation : Operation}
    (linkless : sandbox.Linkless tree) (wellFormed : tree.WellFormed)
    (spelt : ∀ path ∈ operation.paths, path = sandbox.spelt path.virtualPath)
    (performed : operation.perform tree = .ok after) : after.WellFormed := by
  have secure : ∀ path ∈ operation.paths, path.Secure sandbox tree := by
    intro path mem
    rw [spelt path mem]
    exact linkless.secure path.virtualPath
  have plain (path : Resolved) (mem : path ∈ operation.paths) := (secure path mem).straight.plain
  cases operation.does_of_perform secure performed with
  | write => exact wellFormed.put (FileTree.wellFormed_file _) (plain _ List.mem_cons_self)
  | createFile => exact wellFormed.put (FileTree.wellFormed_file _) (plain _ List.mem_cons_self)
  | createDirectory => exact wellFormed.put FileTree.wellFormed_empty (plain _ List.mem_cons_self)
  | removeDirectory => exact wellFormed.remove (plain _ List.mem_cons_self)
  | removeFile => exact wellFormed.remove (plain _ List.mem_cons_self)
  | copy => exact wellFormed.put (FileTree.wellFormed_file _) (plain _ (by simp [Operation.paths]))
  | stay => exact wellFormed
  | move found =>
    exact (wellFormed.remove (plain _ List.mem_cons_self)).put (wellFormed.below found)
      (plain _ (by simp [Operation.paths]))

end ConfinedShell
