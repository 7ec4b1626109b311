import ConfinedShell.Proofs.CurrentDirectory
import ConfinedShell.Proofs.Growth

/-!
# What `rmdir` spares

`rmdir` spares the current directory by name: it compares the virtual path of its operand with that of the
current directory. What it removes is found by following links, so it may be a directory by another name: the one
that the current directory leads to, or one that a link on the way there passes through.

When that happens can be said exactly. The outcome of following a path rests on the locations that are looked at
(`FileTree.pathSeen`), and these are the **support** of a virtual path (`Sandbox.support`). After an empty directory
is gone, a path that led to a directory leads to one still if and only if the location is not in its support
(`Sandbox.leadsToDirectory_remove_iff`). The one half is that nothing looked at has changed. The other half turns
the removal around: the tree before it has grown out of the one after it, and what a path finds in the smaller tree
it finds at locations that stand there.
-/

set_option autoImplicit false

namespace ConfinedShell

/-- **A leg comes somewhere** when it finds something, or when it comes to a link. -/
inductive Leg.Comes : Leg → Prop where
  | found (location : Location) : Comes (.arrived (.found location))
  | atLink (holder : Location) (target : String) (rest : List String) : Comes (.atLink holder target rest)

namespace FileTree

variable {tree before after : FileTree} {here location : Location} {path : Location}

/-! ## A directory that is gone -/

/-- Nothing stands where an entry was dropped. -/
theorem at?_remove_self (ne : location ≠ []) : (tree.remove location).at? location = none := by
  obtain ⟨holder, name, rfl⟩ := (List.eq_nil_or_concat location).resolve_left ne
  rw [List.concat_eq_append, at?_append, at?_remove_append (List.cons_ne_nil _ _)]
  cases tree.at? holder with
  | none => rfl
  | some node => cases node <;> simp [FileTree.remove, Entries.find?_erase_self]

/-- Where an empty directory is gone, only its own location has changed. -/
theorem kindAt?_remove_empty (empty : tree.at? location = some (directory [])) {other : Location}
    (ne : other ≠ location) : (tree.remove location).kindAt? other = tree.kindAt? other :=
  kindAt?_remove_leaf (fun _ => kindAt?_below_empty empty) ne

/-- **A tree has grown out of the one without an empty directory.** -/
theorem grown_of_remove (empty : tree.at? location = some (directory [])) :
    Grown (tree.remove location) tree := by
  refine ⟨fun other shape there => ?_, fun other target isLink => ?_⟩
  · rw [shapeAt?] at there ⊢
    rcases kindAt?_remove tree location other with kept | ⟨-, gone⟩
    · rwa [← kept]
    · rw [gone] at there
      cases there
  · have ne : other ≠ location := by
      rintro rfl
      rw [kindAt?_of_at? empty] at isLink
      cases isLink
    rwa [kindAt?_remove_empty empty ne]

/-! ## What is looked at stands -/

/-- What a leg looks at in a grown tree stood before, if the leg came somewhere then. -/
theorem Grown.stands_of_mem_seen (grown : Grown before after) {parts : List String} {here location : Location}
    (real : before.Real here) (comes : (before.leg .follow here parts).Comes)
    (mem : location ∈ after.seen here parts) : ∃ node, before.at? location = some node := by
  induction parts generalizing here with
  | nil =>
    obtain ⟨node, stands, -⟩ := real.stands
    rw [List.mem_singleton.mp mem]
    exact ⟨node, stands⟩
  | cons part rest ih =>
    obtain ⟨node, stands, -⟩ := real.stands
    rw [seen] at mem
    rcases List.mem_cons.mp mem with rfl | mem
    · exact ⟨node, stands⟩
    rw [FileTree.leg, stands] at comes
    cases node with
    | file bytes => cases comes
    | link target => cases comes
    | directory entries =>
      by_cases stays : part = "" ∨ part = "."
      · simp only [if_pos stays] at comes mem
        exact ih real comes mem
      by_cases up : part = ".."
      · simp only [if_neg stays, if_pos up] at comes mem
        exact ih (real.above (List.dropLast_prefix here)) comes mem
      have plain : PlainName part := ⟨fun h => stays (.inl h), fun h => stays (.inr h), up⟩
      simp only [if_neg stays, if_neg up, reduceCtorEq, false_and, if_false, and_false] at comes mem
      by_cases long : nameLimit < part.utf8ByteSize
      · simp only [if_pos long] at comes
        cases comes
      simp only [if_neg long] at comes
      cases found : Entries.find? part entries with
      | none =>
        rw [found] at comes
        cases rest <;> cases comes
      | some node =>
        rw [found] at comes
        have there : before.at? (here ++ [part]) = some node := (at?_child stands part).trans found
        rcases List.mem_cons.mp mem with rfl | mem
        · exact ⟨node, there⟩
        obtain ⟨node', there', shape⟩ := grown.exists_at? there
        rw [there'] at mem
        cases node with
        | link target =>
          cases node' <;> cases shape
          cases mem
        | file bytes =>
          cases node' <;> cases shape
          exact ih (real.child stands plain found fun _ isLink => by cases isLink) comes mem
        | directory inner =>
          cases node' <;> cases shape
          exact ih (real.child stands plain found fun _ isLink => by cases isLink) comes mem

/-- What a walk looks at in a grown tree stood before, if the walk found something then. -/
theorem Grown.stands_of_mem_walkSeen (grown : Grown before after) {links : Nat} {here found location : Location}
    {parts : List String} (walks : before.Walks .follow (.found found) links here parts)
    (real : before.Real here) (mem : location ∈ after.walkSeen .follow links here parts) :
    ∃ node, before.at? location = some node := by
  induction walks with
  | @arrives links here parts reached =>
    have same := grown.leg .follow here parts
    rw [reached] at same
    rw [walkSeen, same] at mem
    rcases List.mem_append.mp mem with mem | none
    · exact grown.stands_of_mem_seen real (reached ▸ .found found) mem
    · cases none
  | @follows links here holder parts rest target reached _ ih =>
    have same := grown.leg .follow here parts
    rw [reached] at same
    rw [walkSeen, same] at mem
    rcases List.mem_append.mp mem with mem | mem
    · exact grown.stands_of_mem_seen real (reached ▸ .atLink holder target rest) mem
    · have ends := leg_real real parts
      rw [reached] at ends
      exact ih (ends.linkBase target) mem

/-- **What is looked at by a path stood before**, if the path led to something then. -/
theorem Grown.stands_of_mem_pathSeen (grown : Grown before after) (top : before.Real [])
    {found location : Location} (located : before.locate .follow path = .ok (.found found))
    (mem : location ∈ after.pathSeen .follow path) : ∃ node, before.at? location = some node :=
  grown.stands_of_mem_walkSeen (locate_ok.mp located).2.2 top mem

end FileTree

open FileTree (Grown)

namespace Sandbox

variable {sandbox : Sandbox} {tree before after : FileTree} {location : Location}

/-! ## The support of a path -/

/-- The locations that are looked at when the names of `upward`, last name first, are followed as far as there is
something. -/
def settleSupport (tree : FileTree) : List String → List Location
  | [] => []
  | name :: upward =>
    let path := (name :: upward).reverse
    if tree.present path then tree.pathSeen .follow path else settleSupport tree upward

/-- **The support of a virtual path**: the locations that are looked at when it is resolved, and when the path that
it is resolved to is followed. -/
def support (sandbox : Sandbox) (tree : FileTree) (path : VirtualPath) : List Location :=
  settleSupport tree (sandbox.root ++ path.segments).reverse ++
    match sandbox.resolveVirtual tree path with
    | .ok resolved => tree.pathSeen .follow resolved.physical
    | .error _ => []

/-- A virtual path **leads to a directory** when it is resolved, and to one. -/
def LeadsToDirectory (sandbox : Sandbox) (tree : FileTree) (path : VirtualPath) : Prop :=
  ∃ resolved, sandbox.resolveVirtual tree path = .ok resolved ∧ resolved.isDirectory tree = true

/-- A path was settled on the same location before its tree grew, when its support was what it is now. -/
theorem settle_of_support (grown : Grown before after) {upward tail physical : Location}
    (same : ∀ location ∈ settleSupport after upward, before.shapeAt? location = after.shapeAt? location)
    (settled : settle after upward tail = .ok physical) : settle before upward tail = .ok physical := by
  induction upward generalizing tail with
  | nil => exact settled
  | cons name upward ih =>
    rw [settleSupport] at same
    rw [settle] at settled ⊢
    by_cases there : after.present (name :: upward).reverse = true
    · rw [if_pos there] at settled same
      obtain ⟨here, answered, rfl⟩ := map_eq_ok.mp settled
      have located := FileTree.locate_eq_of_seen same
      have answeredBefore : before.realLocation (name :: upward).reverse = .ok here := by
        rw [FileTree.realLocation, located]
        exact answered
      rw [if_pos (FileTree.present_of_locate (FileTree.locate_of_realLocation answeredBefore)), answeredBefore]
      rfl
    · rw [if_neg there] at settled same
      rw [if_neg fun present => there (grown.present present)]
      exact ih same settled

/-- A path that leads to something at its end is present, when what it is settled on is there and the host takes
the path. -/
theorem present_of_settle (top : before.Real []) {path tail physical : Location}
    (plain : ∀ name ∈ path ++ tail, PlainName name)
    (stops : ∀ name rest, tail = name :: rest → before.present (path ++ [name]) = false)
    (settled : settle before path.reverse tail = .ok physical) (host : FileTree.HostPath path)
    {found : Location} (located : before.locate .follow physical = .ok (.found found)) :
    before.present path = true := by
  rw [← List.reverse_reverse path] at stops
  obtain ⟨way, left, here, split, followed, rfl, absent⟩ := exists_of_settle stops settled
  rw [List.reverse_reverse] at split
  subst split
  by_cases nothing : left = []
  · rw [nothing, List.append_nil]
    exact FileTree.present_of_locate followed
  have plainEnd : ∀ name ∈ left ++ tail, PlainName name := fun name mem => plain name (by
    rw [List.append_assoc]
    exact List.mem_append_right way mem)
  have straight := straight_of_settled top followed nothing plainEnd absent host.short
  -- What the path is settled on is there, so all names behind `way` lead on by what they spell.
  obtain rfl : found = here ++ (left ++ tail) := straight.locate located
  obtain ⟨taken, -, node, stands⟩ := straight.locate_found_iff.mp located
  have above : here ++ left <+: here ++ (left ++ tail) :=
    (List.prefix_append_right_inj here).mpr (List.prefix_append left tail)
  have step : before.leg .keep here left = .arrived (.found (here ++ left)) := by
    obtain ⟨holder, standsHere⟩ := FileTree.exists_at?_of_append stands
    have standsLeft : ∃ node, before.at? (here ++ left) = some node := by
      rw [← List.append_assoc] at stands
      exact FileTree.exists_at?_of_append stands
    have leftTaken : ∀ name ∈ left, HostName name := fun name mem => taken name (by simp [mem])
    exact (FileTree.leg_found_iff .keep here left (straight.above above) (fun name mem => taken name (by simp [mem]))
      (fun name mem => (leftTaken name mem).2) ⟨holder, standsHere⟩).mpr
        ⟨fun name mem => (leftTaken name mem).1, standsLeft⟩
  have walks := (FileTree.locate_ok.mp followed).2.2.append nothing (fun isCreate => by cases isCreate) step
  exact FileTree.present_iff.mpr ⟨here ++ left, FileTree.locate_of_walks host.noNul host.short walks⟩

/-- What supports a path in a grown tree stood before, when the path was settled on something then. -/
theorem stands_of_mem_settleSupport (grown : Grown before after) (top : before.Real [])
    {upward tail physical : Location} (plain : ∀ name ∈ upward.reverse ++ tail, PlainName name)
    (stops : ∀ name rest, tail = name :: rest → before.present (upward.reverse ++ [name]) = false)
    (settled : settle before upward tail = .ok physical) {found : Location}
    (located : before.locate .follow physical = .ok (.found found)) (mem : location ∈ settleSupport after upward) :
    ∃ node, before.at? location = some node := by
  induction upward generalizing tail with
  | nil => cases mem
  | cons name upward ih =>
    rw [settleSupport] at mem
    by_cases there : after.present (name :: upward).reverse = true
    · rw [if_pos there] at mem
      obtain ⟨end', kept⟩ := FileTree.present_iff.mp there
      have thereBefore : before.present (name :: upward).reverse = true :=
        present_of_settle top plain stops (by rwa [List.reverse_reverse]) (.of_locate kept) located
      rw [settle, if_pos thereBefore] at settled
      obtain ⟨here, answered, rfl⟩ := map_eq_ok.mp settled
      exact grown.stands_of_mem_pathSeen top (FileTree.locate_of_realLocation answered) mem
    · rw [if_neg there] at mem
      have absent : ¬ before.present (name :: upward).reverse = true := fun present => there (grown.present present)
      rw [settle, if_neg absent] at settled
      have same : (name :: upward).reverse ++ tail = upward.reverse ++ name :: tail := by simp
      refine ih (same ▸ plain) ?_ settled mem
      rintro other rest eq
      obtain ⟨rfl, rfl⟩ := List.cons.inj eq
      simpa using absent

/-- **What an empty directory that goes away leaves of a path** that led to a directory: the path leads to one still
if and only if the directory was not in its support. -/
theorem leadsToDirectory_remove_iff {path : VirtualPath} (ne : location ≠ [])
    (empty : tree.at? location = some (.directory [])) (standsAfter : sandbox.Stands (tree.remove location))
    (leads : sandbox.LeadsToDirectory tree path) :
    sandbox.LeadsToDirectory (tree.remove location) path ↔ location ∉ sandbox.support tree path := by
  have grown := FileTree.grown_of_remove empty
  obtain ⟨resolved, checked, isDirectory⟩ := leads
  have support : sandbox.support tree path =
      settleSupport tree (sandbox.root ++ path.segments).reverse ++ tree.pathSeen .follow resolved.physical := by
    rw [Sandbox.support, checked]
  rw [support, List.mem_append, not_or]
  have gone : ∀ {other : Location}, (∃ node, (tree.remove location).at? other = some node) → other ≠ location := by
    rintro other ⟨node, stands⟩ rfl
    rw [FileTree.at?_remove_self ne] at stands
    cases stands
  constructor
  · rintro ⟨resolvedAfter, checkedAfter, isDirectoryAfter⟩
    have exist : resolvedAfter.exists? tree = true :=
      grown.pathExists (FileTree.pathExists_of_pathIsDirectory isDirectoryAfter)
    have again := resolveVirtual_of_grown grown standsAfter checkedAfter exist
    obtain rfl : resolved = resolvedAfter := Except.ok.inj (checked.symm.trans again)
    obtain ⟨found, entries, located, stands⟩ := FileTree.pathIsDirectory_iff.mp isDirectoryAfter
    obtain ⟨rfl, -, settled⟩ := resolveVirtual_ok checkedAfter
    have top := standsAfter.real.above List.nil_prefix
    have plain := standsAfter.plain_append resolved.virtualPath
    refine ⟨fun mem => ?_, fun mem => ?_⟩
    · refine gone (stands_of_mem_settleSupport grown top ?_ (fun _ _ nil => by cases nil) settled located mem) rfl
      rwa [List.reverse_reverse, List.append_nil]
    · exact gone (grown.stands_of_mem_pathSeen top located mem) rfl
  · rintro ⟨apart, apartBehind⟩
    have same {support : List Location} (apart : location ∉ support) :
        ∀ other ∈ support, (tree.remove location).shapeAt? other = tree.shapeAt? other := by
      intro other mem
      rw [FileTree.shapeAt?, FileTree.shapeAt?, FileTree.kindAt?_remove_empty empty fun eq => apart (eq ▸ mem)]
    obtain ⟨rfl, inside, settled⟩ := resolveVirtual_ok checked
    have settledAfter := settle_of_support grown (same apart) settled
    refine ⟨resolved, ?_, ?_⟩
    · rw [resolveVirtual, settledAfter]
      exact if_pos (List.isPrefixOf_iff_prefix.mpr inside)
    · have still := FileTree.pathIsDirectory_eq_of_seen (same apartBehind)
      exact still.trans isDirectory

/-- **The root stands** after an empty directory was removed that a path other than `/` leads to. -/
theorem Stands.of_remove {path : Resolved} (stands : sandbox.Stands tree) (notRoot : ¬ path.virtualPath.isRoot = true)
    (checked : sandbox.resolveVirtual tree path.virtualPath = .ok path)
    (located : tree.locate .keep path.physical = .ok (.found location))
    (empty : tree.at? location = some (.directory [])) : sandbox.Stands (tree.remove location) := by
  have ne : sandbox.root ≠ location := by
    rintro rfl
    have spelt := physical_of_empty stands empty checked
    have straight := stands.straight_of_empty empty path.virtualPath
    have same : sandbox.root = path.physical := (spelt ▸ straight).locate located
    have below : path.virtualPath.segments ≠ [] := fun nil => notRoot (by simp [VirtualPath.isRoot, nil])
    exact below (List.append_right_eq_self.mp (spelt.symm.trans same.symm))
  refine ⟨stands.plain, FileTree.kindAt?_eq_directory.mp ?_⟩
  rw [FileTree.kindAt?_remove_empty empty ne]
  exact FileTree.kindAt?_eq_directory.mpr stands.isDirectory

end Sandbox

/-- `rmdir` removes the directory that its one operand leads to, and the operand is not `/`. -/
theorem Commands.ensures_rmdir_removes (around : Surroundings) (scene : Scene) (arguments : List String) :
    Action.Ensures scene (rmdir.run around arguments)
      (fun _ after => ∃ input path tree, arguments = [input] ∧
        around.sandbox.resolve scene.tree scene.cwd input = .ok path ∧ ¬ path.virtualPath.isRoot = true ∧
        scene.tree.removeDirectory path.physical = .ok tree ∧ after = { scene with tree }) fun _ => False := by
  refine .oneArgument fun input given => .resolve fun path resolved => .get ?_
  split
  · exact .fail
  · refine .change fun tree removed => ?_
    rw [Resolved.removeDirectory] at removed
    split at removed
    · cases removed
    · next notRoot => exact ⟨input, path, tree, given, resolved, notRoot, Resolved.told_eq_ok.mp removed, rfl⟩

namespace Session

variable {σ : Type} {session : Session σ}

/-- **What a successful `rmdir` leaves of the current directory.** It has removed the empty directory that its operand
leads to, by whatever links. A current directory that was there is there still if and only if that one was not in
the support of its path. -/
theorem hasDirectory_rmdir_iff {suffix : String} (builtin : session.registry = ⟨Commands.builtin suffix⟩)
    (stands : session.sandbox.Stands session.scene.tree) (has : session.HasDirectory) {now : Moment}
    {line : String} {arguments : List String} {output : Output} {after : Scene}
    (tokens : tokenize (Text.trim line) = some ("rmdir", arguments))
    (succeeded : (session.noted (Text.trim line)).dispatch now "rmdir" arguments = .ok output after) :
    ∃ input path location, arguments = [input] ∧
      session.sandbox.resolve session.scene.tree session.scene.cwd input = .ok path ∧
      session.scene.tree.locate .keep path.physical = .ok (.found location) ∧
      (session.process now line).scene = { session.scene with tree := session.scene.tree.remove location } ∧
      ((session.process now line).HasDirectory ↔
        location ∉ session.sandbox.support session.scene.tree session.scene.cwd) := by
  have found : (session.noted (Text.trim line)).registry.find? "rmdir" = some Commands.rmdir := by
    rw [noted, addLines, builtin]
    rfl
  have ran := succeeded
  rw [dispatch, found] at ran
  obtain ⟨input, path, tree, given, resolved, notRoot, removed, rfl⟩ :=
    (Commands.ensures_rmdir_removes _ session.scene arguments).of_ok ran
  obtain ⟨location, located, ne, empty, rfl⟩ := FileTree.exists_of_removeDirectory removed
  have left := scene_process_of_ok tokens succeeded
  have checked : session.sandbox.resolveVirtual session.scene.tree path.virtualPath = .ok path := by
    have same := (Sandbox.resolveVirtual_ok resolved).1
    exact same ▸ resolved
  have standsAfter := stands.of_remove notRoot checked located empty
  refine ⟨input, path, location, given, resolved, located, left, ?_⟩
  rw [HasDirectory, (session.process_leaves now line).2.1, left]
  exact Sandbox.leadsToDirectory_remove_iff ne empty standsAfter has

end Session

namespace Alias

/-- A root with three directories and two links to the first one, of which the second passes through another. -/
def tree : FileTree :=
  .directory [("root", .directory
    [("d", .directory []), ("e", .directory []), ("f", .directory []), ("l", .link "d"), ("way", .link "e/../d")])]

/-- The session that has entered a directory of the root. -/
def entered (name : String) : Session Unit :=
  (Session.start ⟨Commands.builtin ""⟩ ⟨["root"]⟩ (Clock.fixed ⟨2024, 1, 1, 0, 0, 0⟩ 0) tree ()).process 0
    ("cd " ++ name)

end Alias

namespace Session

open Alias

/-- The current directory is entered by the link that passes through another directory. It is there without the
third directory, and it is lost with the one that is passed through. -/
theorem hasDirectory_rmdir_iff_of_way :
    (entered "way").HasDirectory ∧ ((entered "way").process 1 "rmdir /f").HasDirectory ∧
      ¬ ((entered "way").process 1 "rmdir /e").HasDirectory := by
  have builtin : (entered "way").registry = ⟨Commands.builtin ""⟩ := rfl
  have root : (entered "way").sandbox.root = ["root"] := rfl
  have stands : (entered "way").sandbox.Stands (entered "way").scene.tree := by
    refine ⟨?_, _, rfl⟩
    rw [root]
    simp [PlainName]
  have has : (entered "way").HasDirectory := ⟨⟨VirtualPath.parse "/way", ["root", "d"]⟩, rfl, rfl⟩
  refine ⟨has, ?_, ?_⟩
  · have tokens : tokenize (Text.trim "rmdir /f") = some ("rmdir", ["/f"]) := by decide +kernel
    have succeeded : ((entered "way").noted (Text.trim "rmdir /f")).dispatch 1 "rmdir" ["/f"] =
        .ok (.text "directory removed") ((entered "way").process 1 "rmdir /f").scene := rfl
    obtain ⟨input, path, location, given, resolved, located, -, kept⟩ :=
      hasDirectory_rmdir_iff builtin stands has tokens succeeded
    cases given
    cases resolved
    cases located
    exact kept.mpr (by decide +kernel)
  · have tokens : tokenize (Text.trim "rmdir /e") = some ("rmdir", ["/e"]) := by decide +kernel
    have succeeded : ((entered "way").noted (Text.trim "rmdir /e")).dispatch 1 "rmdir" ["/e"] =
        .ok (.text "directory removed") ((entered "way").process 1 "rmdir /e").scene := rfl
    obtain ⟨input, path, location, given, resolved, located, -, kept⟩ :=
      hasDirectory_rmdir_iff builtin stands has tokens succeeded
    cases given
    cases resolved
    cases located
    exact fun still => kept.mp still (by decide +kernel)

/-- **`rmdir` does not protect a current directory that was entered by a link**: it removes the directory by its own
name, and what `cd` has entered is not there any more. -/
theorem rmdir_removes_current_directory :
    (entered "l").HasDirectory ∧
      ((entered "l").process 1 "rmdir /d").transcript =
        ["> cd l", "current directory: /l", "> rmdir /d", "directory removed"] ∧
      ¬ ((entered "l").process 1 "rmdir /d").HasDirectory := by
  refine ⟨⟨⟨VirtualPath.parse "/l", ["root", "d"]⟩, rfl, rfl⟩, by decide +kernel, ?_⟩
  rintro ⟨path, resolved, -⟩
  cases resolved

end Session

end ConfinedShell
