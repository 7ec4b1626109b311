import ConfinedShell.Proofs.Making
import ConfinedShell.Proofs.Opening

/-!
# Trees that only grow

A tree has **grown** when everything that stood in it still does, but for the contents of files, and nothing that
was added is a link (`FileTree.Grown`). Making a directory and writing a file let a tree grow, whatever path they
are given.

In a grown tree a path that led to something leads to it still (`FileTree.Grown.locate`). A path is also resolved
to what it was resolved to, if the host takes what that is (`Sandbox.resolveVirtual_of_hostPath`). That takes an
argument: a path whose end was absent may be followed further now, where before the end was appended as it stood. Both
ways agree because all that was absent is new, and so no link is among it.
-/

set_option autoImplicit false

namespace ConfinedShell

namespace FileTree

variable {tree before after : FileTree} {path location : Location}

/-! ## What is done with a last link -/

/-- A leg that does something else with a last link than to follow it goes the same way, unless it wants a file
and fails, or it keeps a link that stands at the end. -/
theorem leg_last (last : LastLink) (here : Location) (parts : List String) :
    tree.leg last here parts = tree.leg .follow here parts ∨
      (last = .create ∧ ∃ error, tree.leg last here parts = .failed error) ∨
      (last = .keep ∧ (∃ holder target, tree.leg .follow here parts = .atLink holder target []) ∧
        ∃ location, tree.leg last here parts = .arrived (.found location)) := by
  induction parts generalizing here with
  | nil => exact .inl rfl
  | cons part rest ih =>
    rw [leg, leg]
    cases stands : tree.at? here with
    | none => exact .inl rfl
    | some node =>
      cases node with
      | file bytes => exact .inl rfl
      | link target => exact .inl rfl
      | directory entries =>
        by_cases stays : part = "" ∨ part = "."
        · simp only [if_pos stays]
          exact ih _
        by_cases up : part = ".."
        · simp only [if_neg stays, if_pos up]
          exact ih _
        by_cases behind : last = .create ∧ rest ≠ [] ∧ rest.all String.isEmpty = true
        · simp only [if_neg stays, if_neg up, if_pos behind]
          exact .inr (.inl ⟨behind.1, _, rfl⟩)
        by_cases long : nameLimit < part.utf8ByteSize
        · simp only [if_neg stays, if_neg up, if_neg behind, if_pos long]
          exact .inl (if_neg fun both => by cases both.1).symm
        simp only [if_neg stays, if_neg up, if_neg behind, if_neg long, reduceCtorEq, false_and, if_false,
          and_false]
        cases found : Entries.find? part entries with
        | none => exact .inl rfl
        | some node =>
          cases node with
          | file bytes => exact ih _
          | directory inner => exact ih _
          | link target =>
            by_cases ends : rest.isEmpty = true ∧ last = .keep
            · obtain rfl := List.isEmpty_iff.mp ends.1
              simp only [if_pos ends]
              exact .inr (.inr ⟨ends.2, ⟨here, target, rfl⟩, _, rfl⟩)
            · simp only [if_neg ends]
              exact .inl trivial

/-- A walk that wants a file leads where one that follows links does. -/
theorem Walks.follow {place : Place} {links : Nat} {here : Location} {parts : List String}
    (walks : tree.Walks .create place links here parts) : tree.Walks .follow place links here parts := by
  have same {leg : Leg} {here : Location} {parts : List String} (reached : tree.leg .create here parts = leg)
      (goesOn : ∀ error, leg ≠ .failed error) : tree.leg .follow here parts = leg := by
    rcases leg_last .create here parts with same | ⟨-, error, failed⟩ | ⟨isKeep, -⟩
    · exact same.symm.trans reached
    · exact absurd (reached.symm.trans failed) (goesOn error)
    · cases isKeep
  induction walks with
  | arrives reached => exact .arrives (same reached nofun)
  | follows reached _ ih => exact .follows (same reached nofun) ih

/-- **What a path leads to is present.** -/
theorem present_of_locate (located : tree.locate .follow path = .ok (.found location)) :
    tree.present path = true := by
  have kept {links : Nat} {here : Location} {parts : List String}
      (walks : tree.Walks .follow (.found location) links here parts) :
      ∃ end', tree.Walks .keep (.found end') links here parts := by
    induction walks with
    | @arrives _ here parts reached =>
      rcases leg_last .keep here parts with same | ⟨isCreate, -⟩ | ⟨-, -, end', arrived⟩
      · exact ⟨location, .arrives (same.trans reached)⟩
      · cases isCreate
      · exact ⟨end', .arrives arrived⟩
    | @follows _ here _ parts _ _ reached _ ih =>
      rcases leg_last .keep here parts with same | ⟨isCreate, -⟩ | ⟨-, -, end', arrived⟩
      · obtain ⟨end', walks⟩ := ih
        exact ⟨end', .follows (same.trans reached) walks⟩
      · cases isCreate
      · exact ⟨end', .arrives arrived⟩
  obtain ⟨names, length, walks⟩ := locate_ok.mp located
  obtain ⟨end', walks⟩ := kept walks
  exact present_iff.mpr ⟨end', locate_ok.mpr ⟨names, length, walks⟩⟩

/-! ## Grown trees -/

/-- **A tree has grown** when everything in it stands where it stood, but for the contents of files, and no link
is new. -/
structure Grown (before after : FileTree) : Prop where
  keeps : ∀ location shape, before.shapeAt? location = some shape → after.shapeAt? location = some shape
  noNewLinks : NoNewLinks before after

theorem Grown.refl (tree : FileTree) : Grown tree tree :=
  ⟨fun _ _ shape => shape, fun _ _ isLink => isLink⟩

theorem Grown.trans {first second third : FileTree} (one : Grown first second) (two : Grown second third) :
    Grown first third :=
  ⟨fun location shape there => two.keeps location shape (one.keeps location shape there),
    fun location target isLink => one.noNewLinks location target (two.noNewLinks location target isLink)⟩

/-- Something of the same shape still stands at a location of a grown tree. -/
theorem Grown.exists_at? (grown : Grown before after) {node : FileTree}
    (found : before.at? location = some node) :
    ∃ node', after.at? location = some node' ∧ node'.kind.shape = node.kind.shape := by
  have shape := grown.keeps location _ (shapeAt?_of_at? found)
  rw [shapeAt?, kindAt?, Option.map_map] at shape
  exact Option.map_eq_some_iff.mp shape

/-- A directory of a grown tree is one still. -/
theorem Grown.directory (grown : Grown before after) {entries : Entries}
    (stands : before.at? location = some (directory entries)) :
    ∃ entries', after.at? location = some (directory entries') := by
  obtain ⟨node, stands', shape⟩ := grown.exists_at? stands
  cases node with
  | file bytes => cases shape
  | link target => cases shape
  | directory entries' => exact ⟨entries', stands'⟩

/-! ## What lets a tree grow -/

/-- A node that holds no links is set where nothing was. -/
theorem Grown.put_vacant {new : FileTree} (vacant : tree.at? location = none)
    (noLink : ∀ rest target, new.kindAt? rest ≠ some (.link target)) : Grown tree (tree.put location new) := by
  refine ⟨fun other shape there => ?_, .put noLink⟩
  rw [shapeAt?, Option.map_eq_some_iff] at there
  obtain ⟨kind, isKind, rfl⟩ := there
  obtain ⟨node, found, rfl⟩ := Option.map_eq_some_iff.mp isKind
  rw [shapeAt?, kindAt?_put_of_vacant vacant found]
  rfl

/-- A file is set where a file was. -/
theorem Grown.put_file {bytes old : Text.Bytes} (isFile : tree.at? location = some (file old)) :
    Grown tree (tree.put location (file bytes)) := by
  refine ⟨fun other shape there => ?_, .put (file_noLink bytes)⟩
  rcases kindAt?_put tree (file bytes) location other with kept | ⟨rest, rfl, set⟩
  · rw [shapeAt?, kept]
    exact there
  · -- Nothing stood below the old file.
    rw [shapeAt?, kindAt?_append isFile] at there
    rw [shapeAt?, set]
    cases rest with
    | nil => exact there
    | cons name rest => cases there

/-- A file is opened for writing where one is, or where nothing is. -/
theorem free_of_writable (opened : tree.writableLocation path = .ok location) :
    tree.at? location = none ∨ ∃ bytes, tree.at? location = some (file bytes) := by
  rw [writableLocation] at opened
  split at opened
  · cases opened
  · next holder name located =>
    cases opened
    obtain ⟨entries, stands, missing⟩ := locate_vacant located
    exact .inl ((at?_child stands name).trans missing)
  · split at opened
    · next bytes isFile =>
      cases opened
      exact .inr ⟨bytes, isFile⟩
    · cases opened

/-- **Making directories lets the tree grow**, also when not all of them can be made. -/
theorem Grown.of_makeDirectories : Grown tree (tree.makeDirectories path).1 := by
  refine makeDirectories_keeps _ (.refl tree) fun now way after grown _ made => ?_
  obtain ⟨holder, name, located, rfl⟩ := exists_of_makeDirectory made
  obtain ⟨entries, stands, missing⟩ := locate_vacant located
  exact grown.trans (.put_vacant ((at?_child stands name).trans missing) directory_noLink)

/-! ## Where paths lead -/

/-- A leg that finds something goes the same way in a grown tree. -/
theorem Grown.leg (grown : Grown before after) (last : LastLink) (here : Location) (parts : List String) :
    match before.leg last here parts with
    | .arrived (.found location) => after.leg last here parts = .arrived (.found location)
    | .atLink holder target rest => after.leg last here parts = .atLink holder target rest
    | _ => True := by
  induction parts generalizing here with
  | nil => rfl
  | cons part rest ih =>
    rw [FileTree.leg, FileTree.leg]
    cases stands : before.at? here with
    | none => trivial
    | some node =>
      cases node with
      | file bytes => trivial
      | link target => trivial
      | directory entries =>
        obtain ⟨entries', stands'⟩ := grown.directory stands
        simp only [stands']
        by_cases stays : part = "" ∨ part = "."
        · simp only [if_pos stays]
          exact ih _
        by_cases up : part = ".."
        · simp only [if_neg stays, if_pos up]
          exact ih _
        by_cases behind : last = .create ∧ rest ≠ [] ∧ rest.all String.isEmpty = true
        · simp only [if_neg stays, if_neg up, if_pos behind]
        by_cases long : nameLimit < part.utf8ByteSize
        · simp only [if_neg stays, if_neg up, if_neg behind, if_pos long]
        simp only [if_neg stays, if_neg up, if_neg behind, if_neg long]
        cases found : Entries.find? part entries with
        | none => cases rest <;> trivial
        | some node =>
          obtain ⟨node', found', shape⟩ := grown.exists_at? ((at?_child stands part).trans found)
          rw [at?_child stands'] at found'
          rw [found']
          cases node with
          | file bytes =>
            cases node' <;> cases shape
            exact ih _
          | directory inner =>
            cases node' <;> cases shape
            exact ih _
          | link target =>
            cases node' <;> cases shape
            by_cases ends : rest.isEmpty = true ∧ last = .keep
            · simp only [if_pos ends]
            · simp only [if_neg ends]

/-- A walk that finds something goes the same way in a grown tree. -/
theorem Grown.walks (grown : Grown before after) {last : LastLink} {links : Nat} {here : Location}
    {parts : List String} (walks : before.Walks last (.found location) links here parts) :
    after.Walks last (.found location) links here parts := by
  induction walks with
  | @arrives _ here parts reached =>
    have same := grown.leg last here parts
    rw [reached] at same
    exact .arrives same
  | @follows _ here _ parts _ _ reached _ ih =>
    have same := grown.leg last here parts
    rw [reached] at same
    exact .follows same ih

/-- **A path that leads to something leads to it still.** -/
theorem Grown.locate (grown : Grown before after) {last : LastLink}
    (located : before.locate last path = .ok (.found location)) :
    after.locate last path = .ok (.found location) := by
  obtain ⟨names, length, walks⟩ := locate_ok.mp located
  exact locate_ok.mpr ⟨names, length, grown.walks walks⟩

/-- A path leads to something when it leads to the location of a node. -/
theorem pathExists_iff : tree.pathExists path = true ↔
    ∃ location node, tree.locate .follow path = .ok (.found location) ∧ tree.at? location = some node := by
  rw [pathExists]
  constructor
  · intro there
    obtain ⟨node, asked⟩ := Option.isSome_iff_exists.mp there
    obtain ⟨location, located, stands⟩ := stat_ok.mp (ok_of_toOption asked)
    exact ⟨location, node, located, stands⟩
  · rintro ⟨location, node, located, stands⟩
    rw [stat_ok.mpr ⟨location, located, stands⟩]
    rfl

/-- A path that leads to a directory leads to something. -/
theorem pathExists_of_pathIsDirectory (there : tree.pathIsDirectory path = true) :
    tree.pathExists path = true := by
  obtain ⟨location, entries, located, stands⟩ := pathIsDirectory_iff.mp there
  exact pathExists_iff.mpr ⟨location, _, located, stands⟩

/-- What there was by a path is there still. -/
theorem Grown.pathExists (grown : Grown before after) (there : before.pathExists path = true) :
    after.pathExists path = true := by
  obtain ⟨location, node, located, stands⟩ := pathExists_iff.mp there
  obtain ⟨node', stands', -⟩ := grown.exists_at? stands
  exact pathExists_iff.mpr ⟨location, node', grown.locate located, stands'⟩

/-- A path that led to a directory leads to one still. -/
theorem Grown.pathIsDirectory (grown : Grown before after) (there : before.pathIsDirectory path = true) :
    after.pathIsDirectory path = true := by
  obtain ⟨location, entries, located, stands⟩ := pathIsDirectory_iff.mp there
  obtain ⟨entries', stands'⟩ := grown.directory stands
  exact pathIsDirectory_iff.mpr ⟨location, entries', grown.locate located, stands'⟩

/-- What was present is present still. -/
theorem Grown.present (grown : Grown before after) (there : before.present path = true) :
    after.present path = true := by
  obtain ⟨location, located⟩ := present_iff.mp there
  exact present_iff.mpr ⟨location, grown.locate located⟩

/-- The location of what a path leads to has not changed. -/
theorem Grown.realLocation (grown : Grown before after) (answered : before.realLocation path = .ok location) :
    after.realLocation path = .ok location := by
  have located := locate_of_realLocation answered
  rw [FileTree.realLocation, located] at answered
  rw [FileTree.realLocation, grown.locate located]
  exact answered

/-- **Writing a file lets the tree grow.** -/
theorem Grown.of_writeFile {bytes : Text.Bytes} (written : tree.writeFile path bytes = .ok after) :
    Grown tree after := by
  obtain ⟨location, opened, rfl⟩ := map_eq_ok.mp written
  rcases free_of_writable opened with vacant | ⟨old, wasFile⟩
  · exact .put_vacant vacant (file_noLink bytes)
  · exact .put_file wasFile

/-- A path leads to the file that was opened for writing by it. -/
theorem locate_put_writable {bytes : Text.Bytes} (opened : tree.writableLocation path = .ok location) :
    (tree.put location (file bytes)).locate .follow path = .ok (.found location) := by
  have grown : Grown tree (tree.put location (file bytes)) := .of_writeFile (map_eq_ok.mpr ⟨location, opened, rfl⟩)
  obtain ⟨⟨place, located, rfl⟩, -⟩ := exists_place_of_writable opened
  cases place with
  | found location =>
    obtain ⟨names, length, walks⟩ := locate_ok.mp located
    exact grown.locate (locate_ok.mpr ⟨names, length, walks.follow⟩)
  | vacant holder name => exact locate_put nofun located

/-- A path by which a file was written leads to that file. -/
theorem locate_of_writeFile {bytes : Text.Bytes} (written : tree.writeFile path bytes = .ok after) :
    ∃ location, after.locate .follow path = .ok (.found location) ∧ after.at? location = some (file bytes) := by
  obtain ⟨location, opened, rfl⟩ := map_eq_ok.mp written
  exact ⟨location, locate_put_writable opened, at?_put_writable opened (file bytes)⟩

/-- Writing a file lets the tree grow, and the path leads to something then. -/
theorem grown_of_writeFile {bytes : Text.Bytes} (written : tree.writeFile path bytes = .ok after) :
    Grown tree after ∧ after.pathExists path = true := by
  obtain ⟨location, located, isFile⟩ := locate_of_writeFile written
  exact ⟨.of_writeFile written, pathExists_iff.mpr ⟨location, _, located, isFile⟩⟩

/-- **A path that the host takes** holds no NUL and is not too long. -/
structure HostPath (path : Location) : Prop where
  noNul : ∀ name ∈ path, '\x00' ∉ name.toList
  short : pathBytes path < pathLimit

/-- The host takes the beginning of a path that it takes. -/
theorem HostPath.above {way : Location} (host : HostPath path) (inside : way <+: path) : HostPath way :=
  ⟨fun name mem => host.noNul name (inside.subset mem),
    Nat.lt_of_le_of_lt (pathBytes_mono inside) host.short⟩

/-- The host takes a path that leads anywhere. -/
theorem HostPath.of_locate {last : LastLink} {place : Place} (located : tree.locate last path = .ok place) :
    HostPath path := by
  obtain ⟨names, length, -⟩ := locate_ok.mp located
  exact ⟨checkNames_ok names, checkLength_ok length⟩

/-- Directories are made without a change by a path that leads to one. -/
theorem makeDirectories_of_pathIsDirectory (there : tree.pathIsDirectory path = true) :
    tree.makeDirectories path = (tree, .ok ()) := by
  obtain ⟨location, entries, located, stands⟩ := pathIsDirectory_iff.mp there
  have refused : tree.makeDirectory path = .error (.system .fileExists) := by
    obtain ⟨end', kept⟩ := present_iff.mp (present_of_locate located)
    rw [makeDirectory, kept]
  cases upward : path.reverse with
  | nil => rw [makeDirectories, upward, makeDirectoriesUp]
  | cons name above =>
    rw [makeDirectories, upward, makeDirectoriesUp, ← upward, List.reverse_reverse, ensureAfter, refused]
    simp only [ensureDirectory, refused, there, if_true]

end FileTree

open FileTree (Grown HostPath)

namespace Sandbox

variable {sandbox : Sandbox} {before after : FileTree}

/-! ## What paths are resolved to -/

/-- No link stands on what a path is settled on, when the end of the path was absent and the host takes it: `left`
is that end, and `tail` was appended before. -/
theorem straight_of_settled (top : before.Real []) {way left tail here : Location}
    (located : before.locate .follow way = .ok (.found here)) (ne : left ≠ [])
    (plain : ∀ name ∈ left ++ tail, PlainName name)
    (stops : ∀ name rest, left ++ tail = name :: rest → before.present (way ++ [name]) = false)
    (short : pathBytes (way ++ left) < pathLimit) : before.Straight (here ++ (left ++ tail)) := by
  have first : way ++ (left ++ tail).take 1 <+: way ++ left := by
    rw [List.take_append_of_le_length (List.length_pos_iff.mpr ne)]
    exact (List.prefix_append_right_inj way).mpr (List.take_prefix 1 left)
  have bound := Nat.lt_of_le_of_lt (FileTree.pathBytes_mono first) short
  have real := (FileTree.locate_ok.mp located).2.2.real top
  exact FileTree.straight_append located real plain bound stops

/-- A path of which the end was absent and was appended is followed to the same location, once that end is there:
what was added behind the part that had been there is no link. -/
theorem realLocation_of_new (grown : Grown before after) (top : before.Real []) {way left tail here : Location}
    (located : before.locate .follow way = .ok (.found here)) (ne : left ≠ [])
    (plain : ∀ name ∈ left ++ tail, PlainName name)
    (stops : ∀ name rest, left ++ tail = name :: rest → before.present (way ++ [name]) = false)
    (there : after.present (way ++ left) = true) (host : HostPath (here ++ left)) :
    after.realLocation (way ++ left) = .ok (here ++ left) := by
  obtain ⟨end', kept⟩ := FileTree.present_iff.mp there
  obtain ⟨names, length, walksKept⟩ := FileTree.locate_ok.mp kept
  have taken := FileTree.checkNames_ok names
  have short := FileTree.checkLength_ok length
  have straight : after.Straight (here ++ left) := by
    have whole := (straight_of_settled top located ne plain stops short).of_noNewLinks grown.noNewLinks
    exact whole.above ((List.prefix_append_right_inj here).mpr (List.prefix_append left tail))
  have walks := (FileTree.locate_ok.mp (grown.locate located)).2.2
  have hostNames : ∀ name ∈ here, HostName name := fun name mem =>
    ⟨walks.short (fun _ h => nomatch h) name mem, host.noNul name (by simp [mem])⟩
  have noNul : ∀ name ∈ left, '\x00' ∉ name.toList := fun name mem => host.noNul name (by simp [mem])
  have standsHere : ∃ node, after.at? here = some node := by
    obtain ⟨node, found, -⟩ := ((FileTree.locate_ok.mp located).2.2.real top).stands
    obtain ⟨node', found', -⟩ := grown.exists_at? found
    exact ⟨node', found'⟩
  -- Something is present at the end, so the leg behind `here` arrives, and as no link is on it, where it spells.
  have step : after.leg .follow here left = .arrived (.found (here ++ left)) := by
    obtain ⟨links, behind⟩ := walks.behind ne (fun isCreate => by cases isCreate) walksKept
    rcases FileTree.leg_straight .keep here left straight hostNames noNul with
      ⟨place, arrived, spelt⟩ | ⟨error, failed⟩
    · have found : after.leg .keep here left = .arrived (.found (here ++ left)) := by
        cases behind with
        | arrives reached =>
          rw [reached] at arrived
          cases arrived
          rw [reached, ← spelt, Place.location_found]
        | follows reached =>
          rw [reached] at arrived
          cases arrived
      rw [FileTree.leg_found_iff .keep here left straight hostNames noNul standsHere] at found
      exact (FileTree.leg_found_iff .follow here left straight hostNames noNul standsHere).mpr found
    · cases behind with
      | arrives reached =>
        rw [reached] at failed
        cases failed
      | follows reached =>
        rw [reached] at failed
        cases failed
  have followed := FileTree.locate_of_walks taken short (walks.append ne (fun isCreate => by cases isCreate) step)
  simp only [FileTree.realLocation, followed, if_neg (Nat.not_le.mpr host.short)]

/-- **A path is settled on the same location** in a grown tree, when the host takes the path to it. -/
theorem settle_of_grown (grown : Grown before after) (top : before.Real []) {upward tail physical : Location}
    (plain : ∀ name ∈ upward.reverse ++ tail, PlainName name)
    (stops : ∀ name rest, tail = name :: rest → before.present (upward.reverse ++ [name]) = false)
    (settled : settle before upward tail = .ok physical) (host : HostPath physical) :
    settle after upward tail = .ok physical := by
  induction upward generalizing tail with
  | nil => exact settled
  | cons name upward ih =>
    have same : (name :: upward).reverse ++ tail = upward.reverse ++ name :: tail := by simp
    rw [settle] at settled ⊢
    by_cases there : before.present (name :: upward).reverse = true
    · rw [if_pos there] at settled
      obtain ⟨here, answered, rfl⟩ := map_eq_ok.mp settled
      rw [if_pos (grown.present there), grown.realLocation answered]
      rfl
    · rw [if_neg there] at settled
      have absent : ∀ other rest, name :: tail = other :: rest →
          before.present (upward.reverse ++ [other]) = false := by
        rintro other rest eq
        obtain ⟨rfl, rfl⟩ := List.cons.inj eq
        simpa using there
      by_cases now : after.present (name :: upward).reverse = true
      · obtain ⟨way, left, here, split, located, rfl, stops⟩ := exists_of_settle absent settled
        have path : (name :: upward).reverse = way ++ (left ++ [name]) := by simp [split]
        have tail' : left ++ name :: tail = left ++ [name] ++ tail := by simp
        rw [path] at now
        rw [tail'] at stops host ⊢
        have above : here ++ (left ++ [name]) <+: here ++ (left ++ [name] ++ tail) := by simp
        rw [if_pos (path ▸ now), path,
          realLocation_of_new grown top located (by simp) ?_ stops now (host.above above)]
        · simp [Except.map]
        · intro other mem
          refine plain other ?_
          rw [path, List.append_assoc]
          exact List.mem_append_right way mem
      · rw [if_neg now]
        exact ih (same ▸ plain) absent settled

/-- The top of a tree in which a sandbox stands is a directory. -/
theorem Stands.exists_top {tree : FileTree} (stands : sandbox.Stands tree) :
    ∃ entries, tree = .directory entries := by
  obtain ⟨entries, isDirectory⟩ := stands.isDirectory
  by_cases top : sandbox.root = []
  · rw [top, FileTree.at?_nil] at isDirectory
    exact ⟨entries, Option.some.inj isDirectory⟩
  · rw [← List.nil_append sandbox.root] at isDirectory
    obtain ⟨others, isDirectory⟩ := FileTree.directory_of_at?_append isDirectory top
    rw [FileTree.at?_nil] at isDirectory
    exact ⟨others, Option.some.inj isDirectory⟩

/-- The root of a sandbox stands in a grown tree. -/
theorem Stands.of_grown (stands : sandbox.Stands before) (grown : Grown before after) :
    sandbox.Stands after := by
  obtain ⟨entries, isDirectory⟩ := stands.isDirectory
  exact ⟨stands.plain, grown.directory isDirectory⟩

/-- **A virtual path is resolved as before** in a grown tree, when the host takes the path that it is resolved to. -/
theorem resolveVirtual_of_hostPath (grown : Grown before after) (stands : sandbox.Stands before)
    {path : VirtualPath} {resolved : Resolved} (checked : sandbox.resolveVirtual before path = .ok resolved)
    (host : HostPath resolved.physical) : sandbox.resolveVirtual after path = .ok resolved := by
  obtain ⟨rfl, inside, settled⟩ := resolveVirtual_ok checked
  have same : settle after (sandbox.root ++ resolved.virtualPath.segments).reverse [] = .ok resolved.physical := by
    refine settle_of_grown grown (stands.real.above List.nil_prefix) (fun name mem => ?_)
      (fun _ _ nil => by cases nil) settled host
    rw [List.reverse_reverse, List.append_nil] at mem
    exact stands.plain_append resolved.virtualPath name mem
  rw [resolveVirtual, same]
  exact if_pos (List.isPrefixOf_iff_prefix.mpr inside)

/-- In particular when something is there. -/
theorem resolveVirtual_of_grown (grown : Grown before after) (stands : sandbox.Stands before)
    {path : VirtualPath} {resolved : Resolved} (checked : sandbox.resolveVirtual before path = .ok resolved)
    (exist : resolved.exists? after = true) : sandbox.resolveVirtual after path = .ok resolved := by
  obtain ⟨location, node, located, -⟩ := FileTree.pathExists_iff.mp exist
  exact resolveVirtual_of_hostPath grown stands checked (.of_locate located)

end Sandbox

end ConfinedShell
