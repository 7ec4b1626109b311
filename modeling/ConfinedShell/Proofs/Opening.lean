import ConfinedShell.Proofs.Calls
import ConfinedShell.Proofs.Confinement

/-!
# An opened sandbox stands

A directory that is made at the end of a path is found at the end of that path (`FileTree.locate_put`): the
new entry stands where the way ends, so nothing on the way has changed. Making all directories of a path
therefore ends with a directory at its end, and the location of that directory, links followed, is what
the sandbox takes as its root (`Sandbox.stands_of_openAt`).
-/

set_option autoImplicit false

namespace ConfinedShell

namespace FileTree

variable {tree after : FileTree} {path : Location}

/-! ## The way to a new entry -/

/-- A new entry where nothing was changes no node that is there. -/
theorem kindAt?_put_of_vacant {location other : Location} {node : FileTree}
    (vacant : tree.at? location = none) (found : tree.at? other = some node) (new : FileTree) :
    (tree.put location new).kindAt? other = some node.kind := by
  have apart : ¬ location <+: other := by
    rintro ⟨rest, rfl⟩
    rw [at?_append_of_none vacant] at found
    cases found
  rw [kindAt?_put_outside apart, kindAt?_of_at? found]

section

variable {holder : Location} {name : String} {entries : Entries} {new : FileTree}

/-- A leg that arrives at a vacant place arrives at what is put there, and one that comes to a link does so
after that as well. -/
theorem leg_put (stands : tree.at? holder = some (directory entries))
    (missing : Entries.find? name entries = none) (noLink : ∀ target, new ≠ link target)
    (last : LastLink) (here : Location) (parts : List String) :
    match tree.leg last here parts with
    | .arrived (.vacant above free) => above = holder → free = name →
      (tree.put (holder ++ [name]) new).leg .follow here parts = .arrived (.found (holder ++ [name]))
    | .atLink above target rest =>
      (tree.put (holder ++ [name]) new).leg .follow here parts = .atLink above target rest
    | _ => True := by
  have vacant : tree.at? (holder ++ [name]) = none := by rw [at?_child stands, missing]
  induction parts generalizing here with
  | nil => trivial
  | cons part rest ih =>
    rw [leg, leg]
    cases standsHere : tree.at? here with
    | none => trivial
    | some node =>
      cases node with
      | file bytes => trivial
      | link target => trivial
      | directory others =>
        obtain ⟨others', standsHere'⟩ :=
          kindAt?_eq_directory.mp (kindAt?_put_of_vacant vacant standsHere new)
        simp only [standsHere']
        by_cases stays : part = "" ∨ part = "."
        · simp only [if_pos stays]
          exact ih _
        by_cases up : part = ".."
        · simp only [if_neg stays, if_pos up]
          exact ih _
        by_cases behind : last = .create ∧ rest ≠ [] ∧ rest.all String.isEmpty = true
        · simp only [if_neg stays, if_neg up, if_pos behind]
        by_cases long : nameLimit < part.utf8ByteSize
        · simp only [if_neg stays, if_neg up, if_neg behind, if_pos long]
        simp only [if_neg stays, if_neg up, if_neg behind, if_neg long, reduceCtorEq, false_and,
          if_false, and_false]
        cases found : Entries.find? part others with
        | none =>
          cases rest with
          | cons next rest => trivial
          | nil =>
            rintro rfl rfl
            have put := at?_put_child stands part new
            rw [at?_child standsHere'] at put
            cases new with
            | link target => exact absurd rfl (noLink target)
            | file bytes => simp only [put, leg]
            | directory inner => simp only [put, leg]
        | some node =>
          have foundHere : tree.at? (here ++ [part]) = some node := by rw [at?_child standsHere, found]
          have kept := kindAt?_put_of_vacant vacant foundHere new
          rw [kindAt?, at?_child standsHere'] at kept
          obtain ⟨node', found', sort⟩ := Option.map_eq_some_iff.mp kept
          rw [found']
          cases node with
          | link target =>
            cases node' <;> simp [FileTree.kind] at sort
            subst sort
            by_cases ends : rest.isEmpty = true ∧ last = .keep
            · simp only [if_pos ends]
            · simp only [if_neg ends]
          | file bytes =>
            cases node' <;> simp [FileTree.kind] at sort
            exact ih _
          | directory inner =>
            cases node' <;> simp [FileTree.kind] at sort
            exact ih _

/-- **A walk to a vacant place finds what is put there.** -/
theorem Walks.put (noLink : ∀ target, new ≠ link target) {last : LastLink} {links : Nat}
    {here : Location} {parts : List String}
    (walks : tree.Walks last (.vacant holder name) links here parts) :
    (tree.put (holder ++ [name]) new).Walks .follow (.found (holder ++ [name])) links here parts := by
  obtain ⟨entries, stands, missing⟩ := walks.vacant
  induction walks with
  | @arrives _ here parts reached =>
    have same := leg_put stands missing noLink last here parts
    rw [reached] at same
    exact .arrives (same rfl rfl)
  | @follows _ here _ parts _ _ reached _ ih =>
    have same := leg_put stands missing noLink last here parts
    rw [reached] at same
    exact .follows same ih

/-- A path to a vacant place leads to what is put there. -/
theorem locate_put (noLink : ∀ target, new ≠ link target) {last : LastLink}
    (located : tree.locate last path = .ok (.vacant holder name)) :
    (tree.put (holder ++ [name]) new).locate .follow path = .ok (.found (holder ++ [name])) := by
  obtain ⟨names, length, walks⟩ := locate_ok.mp located
  exact locate_ok.mpr ⟨names, length, walks.put noLink⟩

end

/-! ## Making directories -/

/-- The top of a tree in which a path leads to a directory is a directory. -/
theorem real_top {location : Location} {entries : Entries}
    (located : tree.locate .follow path = .ok (.found location))
    (stands : tree.at? location = some (directory entries)) : tree.Real [] := by
  refine ⟨(fun _ h => nomatch h), tree, at?_nil tree, ?_⟩
  rintro target rfl
  have walks := (locate_ok.mp located).2.2
  cases path with
  | nil =>
    cases walks with
    | arrives reached =>
      cases reached
      cases stands
    | follows reached => cases reached
  | cons part rest =>
    cases walks with
    | arrives reached => cases reached
    | follows reached => cases reached

/-- A directory that was made is found. -/
theorem pathIsDirectory_of_makeDirectory (made : tree.makeDirectory path = .ok after) :
    after.pathIsDirectory path = true := by
  obtain ⟨holder, name, located, rfl⟩ := exists_of_makeDirectory made
  obtain ⟨entries, stands, -⟩ := locate_vacant located
  exact pathIsDirectory_iff.mpr ⟨holder ++ [name], [],
    locate_put (fun _ h => nomatch h) located, at?_put_child stands name (directory [])⟩

theorem pathIsDirectory_of_ensureDirectory (ensured : tree.ensureDirectory path = (after, .ok ())) :
    after.pathIsDirectory path = true := by
  rw [ensureDirectory] at ensured
  split at ensured
  · next made =>
    cases ensured
    exact pathIsDirectory_of_makeDirectory made
  · split at ensured
    · next isDirectory =>
      cases ensured
      exact isDirectory
    · cases ensured

theorem pathIsDirectory_of_ensureAfter {makeHolder : Unit → FileTree × Except HostError Unit}
    (ensured : tree.ensureAfter path makeHolder = (after, .ok ())) :
    after.pathIsDirectory path = true := by
  rw [ensureAfter] at ensured
  split at ensured
  · split at ensured
    · cases ensured
    · exact pathIsDirectory_of_ensureDirectory ensured
  · exact pathIsDirectory_of_ensureDirectory ensured

/-- The directories of a path are made down to its end. The empty path leads to the top, which is left
as it is. -/
theorem pathIsDirectory_of_makeDirectories (top : ∃ entries, tree = directory entries)
    (made : tree.makeDirectories path = (after, .ok ())) : after.pathIsDirectory path = true := by
  rw [makeDirectories] at made
  cases upward : path.reverse with
  | nil =>
    obtain ⟨entries, rfl⟩ := top
    rw [upward, makeDirectoriesUp] at made
    cases made
    rw [List.reverse_eq_nil_iff.mp upward]
    rfl
  | cons name above =>
    rw [upward, makeDirectoriesUp, ← upward, List.reverse_reverse] at made
    exact pathIsDirectory_of_ensureAfter made

/-- A path with a dot at its end is only asked for there. -/
theorem pathIsDirectory_of_makeWrittenDirectories (top : ∃ entries, tree = directory entries)
    (made : tree.makeWrittenDirectories path = (after, .ok ())) :
    after.pathIsDirectory path = true := by
  rw [makeWrittenDirectories] at made
  split at made
  · exact pathIsDirectory_of_ensureAfter made
  · exact pathIsDirectory_of_makeDirectories top made

end FileTree

namespace Sandbox

/-- **An opened sandbox stands**: its root is a directory of the tree that opening it leaves, called by the
plain names that the host gives it. -/
theorem stands_of_openAt {tree after : FileTree} {path : Location} {sandbox : Sandbox}
    (top : ∃ entries, tree = .directory entries)
    (opened : Sandbox.openAt tree path = (after, .ok sandbox)) : sandbox.Stands after := by
  rw [openAt] at opened
  split at opened
  · cases opened
  next made =>
  split at opened
  · cases opened
  next root answered =>
  cases opened
  obtain ⟨location, entries, located, stands⟩ := FileTree.pathIsDirectory_iff.mp
    (FileTree.pathIsDirectory_of_makeWrittenDirectories top made)
  have found := FileTree.locate_of_realLocation answered
  rw [located] at found
  cases found
  have real := (FileTree.locate_ok.mp located).2.2.real (FileTree.real_top located stands)
  exact ⟨real.plain, entries, stands⟩

end Sandbox

end ConfinedShell
