import ConfinedShell.Host.FileTree

/-!
# Looking up a changed tree

What `put` and `remove` do to the rest of a tree. A lookup goes through directories alone
(`at?_append`), so a change at a location is seen at that location, below it, and in the directories
above it, which stay directories; every other location keeps its kind
(`kindAt?_put_outside`, `kindAt?_remove_outside`). A change below a directory is the same
change made inside of that directory (`at?_put_append`, `at?_remove_append`).
-/

set_option autoImplicit false

namespace ConfinedShell.FileTree

/-! ## Lookups -/

@[simp] theorem at?_nil (tree : FileTree) : tree.at? [] = some tree := by
  cases tree <;> rfl

@[simp] theorem at?_directory_cons (entries : Entries) (name : String) (rest : Location) :
    (directory entries).at? (name :: rest) =
      (Entries.find? name entries).bind fun node => node.at? rest := rfl

@[simp] theorem at?_file_cons (bytes : Text.Bytes) (name : String) (rest : Location) :
    (file bytes).at? (name :: rest) = none := rfl

@[simp] theorem at?_link_cons (target : String) (name : String) (rest : Location) :
    (link target).at? (name :: rest) = none := rfl

/-- A lookup in two stretches: the second one starts at the node that the first one ends at. -/
theorem at?_append (tree : FileTree) (location rest : Location) :
    tree.at? (location ++ rest) = (tree.at? location).bind fun node => node.at? rest := by
  induction location generalizing tree with
  | nil => simp
  | cons name location ih =>
    cases tree with
    | file bytes => rfl
    | link target => rfl
    | directory entries =>
      cases h : Entries.find? name entries with
      | none => simp [h]
      | some node => simp [h, ih node]

/-- The entries of a directory are the nodes one step below it. -/
theorem at?_child {tree : FileTree} {here : Location} {entries : Entries}
    (stands : tree.at? here = some (directory entries)) (name : String) :
    tree.at? (here ++ [name]) = Entries.find? name entries := by
  rw [at?_append, stands]
  cases h : Entries.find? name entries <;> simp [h]

/-- Where something stands below, there is a node. -/
theorem exists_at?_of_append {tree node : FileTree} {location rest : Location}
    (below : tree.at? (location ++ rest) = some node) : ∃ holder, tree.at? location = some holder := by
  rw [at?_append] at below
  obtain ⟨holder, found, -⟩ := Option.bind_eq_some_iff.mp below
  exact ⟨holder, found⟩

/-- What has something below it is a directory. -/
theorem directory_of_at?_append {tree node : FileTree} {location rest : Location}
    (below : tree.at? (location ++ rest) = some node) (ne : rest ≠ []) :
    ∃ entries, tree.at? location = some (directory entries) := by
  rw [at?_append] at below
  obtain ⟨holder, found, reached⟩ := Option.bind_eq_some_iff.mp below
  cases rest with
  | nil => exact absurd rfl ne
  | cons name rest =>
    cases holder with
    | file bytes => cases reached
    | link target => cases reached
    | directory entries => exact ⟨entries, found⟩

/-- Nothing lies below what is not there. -/
theorem at?_append_of_none {tree : FileTree} {location : Location}
    (missing : tree.at? location = none) (rest : Location) :
    tree.at? (location ++ rest) = none := by
  rw [at?_append, missing]
  rfl

/-- The kind at a location is that of the node there. -/
theorem kindAt?_of_at? {tree node : FileTree} {location : Location}
    (found : tree.at? location = some node) : tree.kindAt? location = some node.kind := by
  rw [kindAt?, found]
  rfl

/-- The kinds below a node are those in the node. -/
theorem kindAt?_append {tree node : FileTree} {location : Location}
    (found : tree.at? location = some node) (rest : Location) :
    tree.kindAt? (location ++ rest) = node.kindAt? rest := by
  rw [kindAt?, at?_append, found]
  rfl

/-- Only a link is of the kind of a link. -/
theorem kindAt?_eq_link {tree : FileTree} {location : Location} {target : String} :
    tree.kindAt? location = some (.link target) ↔ tree.at? location = some (link target) := by
  rw [kindAt?]
  constructor
  · intro h
    obtain ⟨node, found, kind⟩ := Option.map_eq_some_iff.mp h
    cases node <;> simp [FileTree.kind] at kind
    rw [found, kind]
  · intro h
    rw [h]
    rfl

/-- Only a directory is of the kind of a directory. -/
theorem kindAt?_eq_directory {tree : FileTree} {location : Location} :
    tree.kindAt? location = some .directory ↔
      ∃ entries, tree.at? location = some (directory entries) := by
  rw [kindAt?]
  constructor
  · intro h
    obtain ⟨node, found, kind⟩ := Option.map_eq_some_iff.mp h
    cases node <;> simp [FileTree.kind] at kind
    exact ⟨_, found⟩
  · rintro ⟨entries, h⟩
    rw [h]
    rfl

/-- The kind inside a directory, one name further. -/
theorem kindAt?_directory_cons (entries : Entries) (name : String) (rest : Location) :
    (directory entries).kindAt? (name :: rest) =
      (Entries.find? name entries).bind fun node => node.kindAt? rest := by
  rw [kindAt?, at?_directory_cons]
  cases Entries.find? name entries <;> rfl

/-! ## Setting an entry -/

/-- What stands at a location after an entry was set: what stood there, or a part of the new node. -/
theorem kindAt?_put (tree new : FileTree) (location other : Location) :
    (tree.put location new).kindAt? other = tree.kindAt? other ∨
      ∃ rest, other = location ++ rest ∧
        (tree.put location new).kindAt? other = new.kindAt? rest := by
  fun_induction FileTree.put tree location new generalizing other with
  | case1 node new => exact .inr ⟨other, rfl, rfl⟩
  | case2 entries name new =>
    cases other with
    | nil => exact .inl rfl
    | cons o os =>
      by_cases same : o = name
      · subst same
        refine .inr ⟨os, rfl, ?_⟩
        simp only [kindAt?_directory_cons, Entries.find?_insert_self, Option.bind_some]
      · refine .inl ?_
        simp only [kindAt?_directory_cons, Entries.find?_insert_of_ne same]
  | case3 entries name rest new _ node found ih =>
    cases other with
    | nil => exact .inl rfl
    | cons o os =>
      by_cases same : o = name
      · subst same
        simp only [kindAt?_directory_cons, Entries.find?_insert_self, found, Option.bind_some]
        rcases ih os with kept | ⟨inner, rfl, changed⟩
        · exact .inl kept
        · exact .inr ⟨inner, rfl, changed⟩
      · refine .inl ?_
        simp only [kindAt?_directory_cons, Entries.find?_insert_of_ne same]
  | case4 => exact .inl rfl
  | case5 => exact .inl rfl

/-- Setting an entry changes no location outside of it. -/
theorem kindAt?_put_outside {location other : Location} (apart : ¬ location <+: other)
    (tree new : FileTree) : (tree.put location new).kindAt? other = tree.kindAt? other := by
  rcases kindAt?_put tree new location other with kept | ⟨rest, rfl, _⟩
  · exact kept
  · exact absurd (List.prefix_append location rest) apart

/-- Setting an entry changes nothing at all at a location beside it. -/
theorem at?_put_beside {location other : Location} (apart : ¬ location <+: other)
    (apart' : ¬ other <+: location) (tree new : FileTree) :
    (tree.put location new).at? other = tree.at? other := by
  fun_induction FileTree.put tree location new generalizing other with
  | case1 node new => exact absurd List.nil_prefix apart
  | case2 entries name new =>
    cases other with
    | nil => exact absurd List.nil_prefix apart'
    | cons o os =>
      have differ : o ≠ name := by
        rintro rfl
        exact apart (by simp)
      simp only [at?_directory_cons, Entries.find?_insert_of_ne differ]
  | case3 entries name rest new _ node found ih =>
    cases other with
    | nil => exact absurd List.nil_prefix apart'
    | cons o os =>
      by_cases same : o = name
      · subst same
        simp only [at?_directory_cons, Entries.find?_insert_self, found, Option.bind_some]
        exact ih (fun inside => apart (by simpa using inside))
          (fun inside => apart' (by simpa using inside))
      · simp only [at?_directory_cons, Entries.find?_insert_of_ne same]
  | case4 => rfl
  | case5 => rfl

/-- Setting an entry below a directory sets it inside of that directory. -/
theorem at?_put_append {rest : Location} (ne : rest ≠ []) (location : Location)
    (tree new : FileTree) :
    (tree.put (location ++ rest) new).at? location =
      (tree.at? location).map fun node => node.put rest new := by
  induction location generalizing tree with
  | nil => simp
  | cons name location ih =>
    cases tree with
    | file bytes => simp [FileTree.put]
    | link target => simp [FileTree.put]
    | directory entries =>
      obtain ⟨next, more, split⟩ := List.exists_cons_of_ne_nil
        (List.append_ne_nil_of_right_ne_nil location ne)
      cases found : Entries.find? name entries with
      | none => simp [FileTree.put, split, found]
      | some node =>
        simp only [List.cons_append, split, FileTree.put, found, at?_directory_cons,
          Entries.find?_insert_self, Option.bind_some]
        rw [← split]
        exact ih node

/-- A directory in which an entry is set is a directory. -/
theorem exists_directory_put {rest : Location} (ne : rest ≠ []) (entries : Entries)
    (new : FileTree) : ∃ after, (directory entries).put rest new = directory after := by
  match rest with
  | [] => exact absurd rfl ne
  | [name] => exact ⟨_, rfl⟩
  | name :: next :: more =>
    cases found : Entries.find? name entries with
    | none => exact ⟨entries, by simp [FileTree.put, found]⟩
    | some node =>
      refine ⟨Entries.insert name (node.put (next :: more) new) entries, ?_⟩
      simp only [FileTree.put, found]

/-- An entry that is set in a directory is there. -/
theorem at?_put_child {tree : FileTree} {holder : Location} {entries : Entries}
    (stands : tree.at? holder = some (directory entries)) (name : String) (new : FileTree) :
    (tree.put (holder ++ [name]) new).at? (holder ++ [name]) = some new := by
  rw [at?_append, at?_put_append (List.cons_ne_nil _ _), stands]
  simp [FileTree.put, Entries.find?_insert_self]

/-! ## Dropping an entry -/

/-- What stands at a location after an entry was dropped: what stood there, or nothing. -/
theorem kindAt?_remove (tree : FileTree) (location other : Location) :
    (tree.remove location).kindAt? other = tree.kindAt? other ∨
      location <+: other ∧ (tree.remove location).kindAt? other = none := by
  fun_induction FileTree.remove tree location generalizing other with
  | case1 node => exact .inl rfl
  | case2 entries name =>
    cases other with
    | nil => exact .inl rfl
    | cons o os =>
      by_cases same : o = name
      · subst same
        refine .inr ⟨by simp, ?_⟩
        simp only [kindAt?_directory_cons, Entries.find?_erase_self, Option.bind_none]
      · refine .inl ?_
        simp only [kindAt?_directory_cons, Entries.find?_erase_of_ne same]
  | case3 entries name rest _ node found ih =>
    cases other with
    | nil => exact .inl rfl
    | cons o os =>
      by_cases same : o = name
      · subst same
        simp only [kindAt?_directory_cons, Entries.find?_insert_self, found, Option.bind_some]
        rcases ih os with kept | ⟨inner, gone⟩
        · exact .inl kept
        · exact .inr ⟨by simpa using inner, gone⟩
      · refine .inl ?_
        simp only [kindAt?_directory_cons, Entries.find?_insert_of_ne same]
  | case4 => exact .inl rfl
  | case5 => exact .inl rfl

/-- Dropping an entry changes no location outside of it. -/
theorem kindAt?_remove_outside {location other : Location} (apart : ¬ location <+: other)
    (tree : FileTree) : (tree.remove location).kindAt? other = tree.kindAt? other := by
  rcases kindAt?_remove tree location other with kept | ⟨inside, _⟩
  · exact kept
  · exact absurd inside apart

/-- Dropping an entry below a directory drops it inside of that directory. -/
theorem at?_remove_append {rest : Location} (ne : rest ≠ []) (location : Location)
    (tree : FileTree) :
    (tree.remove (location ++ rest)).at? location =
      (tree.at? location).map fun node => node.remove rest := by
  induction location generalizing tree with
  | nil => simp
  | cons name location ih =>
    cases tree with
    | file bytes => simp [FileTree.remove]
    | link target => simp [FileTree.remove]
    | directory entries =>
      obtain ⟨next, more, split⟩ := List.exists_cons_of_ne_nil
        (List.append_ne_nil_of_right_ne_nil location ne)
      cases found : Entries.find? name entries with
      | none => simp [FileTree.remove, split, found]
      | some node =>
        simp only [List.cons_append, split, FileTree.remove, found, at?_directory_cons,
          Entries.find?_insert_self, Option.bind_some]
        rw [← split]
        exact ih node

/-- A directory from which an entry is dropped is a directory. -/
theorem exists_directory_remove (rest : Location) (entries : Entries) :
    ∃ after, (directory entries).remove rest = directory after := by
  match rest with
  | [] => exact ⟨entries, by simp [FileTree.remove]⟩
  | [name] => exact ⟨_, rfl⟩
  | name :: next :: more =>
    cases found : Entries.find? name entries with
    | none => exact ⟨entries, by simp [FileTree.remove, found]⟩
    | some node =>
      refine ⟨Entries.insert name (node.remove (next :: more)) entries, ?_⟩
      simp only [FileTree.remove, found]

end ConfinedShell.FileTree
