import ConfinedShell.Proofs.Walk
import ConfinedShell.Sandbox

/-!
# Checked paths stay inside the root

A sandbox checks a path once and then trusts it: what `resolve` returns is handed to the host as it is.
This module shows what the check is worth. A path whose written form the host takes (`Sandbox.Fits`) is
resolved to a **straight** one (`Sandbox.resolveVirtual_straight`): the part that exists has been
followed to a real location, and behind it stands nothing that a link could hide in. So the host gets
by it to the place that it spells, which lies below the root (`Sandbox.resolve_confined`).

The bound is needed. The check takes every failure to look at a name for the absence of that name. A path
that is too long fails as well, so its end is appended unseen, and the shorter path that comes of it can
hold a link (`Sandbox.resolve_overlong_leads_out`).
-/

set_option autoImplicit false

namespace ConfinedShell

/-- The segments of a virtual path are plain names. -/
theorem VirtualPath.plain (path : VirtualPath) : ∀ name ∈ path.segments, PlainName name := by
  intro name mem
  have segment := path.isSegment name mem
  exact ⟨segment.1, segment.2.1, segment.2.2.1⟩

/-- A place within a directory: what stands there lies in it, and what would be made there as well. -/
def Place.Within (root : Location) : Place → Prop
  | .found location => root <+: location
  | .vacant holder _ => root <+: holder

namespace FileTree

variable {tree : FileTree}

/-! ## What the check looks at -/

/-- A path is written with at least as many bytes as its beginning. -/
theorem pathBytes_mono {way path : Location} (inside : way <+: path) :
    pathBytes way ≤ pathBytes path := by
  obtain ⟨rest, rfl⟩ := inside
  have grows : ∀ (names : Location) (bytes : Nat),
      names.foldr (fun name rest => 1 + name.utf8ByteSize + rest) 0 ≤
        names.foldr (fun name rest => 1 + name.utf8ByteSize + rest) bytes := by
    intro names bytes
    induction names with
    | nil => exact Nat.zero_le bytes
    | cons name names ih =>
      simp only [List.foldr_cons]
      omega
  unfold pathBytes
  rw [List.foldr_append]
  have := grows way (rest.foldr (fun name rest => 1 + name.utf8ByteSize + rest) 0)
  omega

/-- An entry of a directory that a path leads to is present behind that path. -/
theorem present_child {path here : Location} {entries : Entries} {name : String} {node : FileTree}
    (located : tree.locate .follow path = .ok (.found here))
    (stands : tree.at? here = some (directory entries))
    (found : Entries.find? name entries = some node) (plain : PlainName name)
    (taken : HostName name) (short : pathBytes (path ++ [name]) < pathLimit) :
    tree.present (path ++ [name]) = true := by
  obtain ⟨names, -, walks⟩ := locate_ok.mp located
  have step : tree.leg .keep here [name] = .arrived (.found (here ++ [name])) := by
    have stays : ¬ (name = "" ∨ name = ".") := fun h => h.elim plain.1 plain.2.1
    rw [leg, stands]
    simp only [if_neg stays, if_neg plain.2.2, reduceCtorEq, false_and, if_false,
      if_neg (Nat.not_lt.mpr taken.1), found]
    cases node <;> simp [leg]
  have noNul : ∀ other ∈ path ++ [name], '\x00' ∉ other.toList := by
    intro other mem
    rcases List.mem_append.mp mem with mem | mem
    · exact checkNames_ok names other mem
    · rw [List.mem_singleton.mp mem]
      exact taken.2
  have noName : LastLink.keep = .create → [name].all String.isEmpty = false := fun isCreate => by cases isCreate
  have kept := locate_of_walks noNul short (walks.append (List.cons_ne_nil name []) noName step)
  exact present_iff.mpr ⟨_, kept⟩

/-- Nothing is present at the end of a path that is too long. -/
theorem present_of_overlong {path : Location} (long : pathLimit ≤ pathBytes path) :
    tree.present path = false := by
  rw [Bool.eq_false_iff]
  intro there
  obtain ⟨location, located⟩ := present_iff.mp there
  exact Nat.not_lt.mpr long (checkLength_ok (locate_ok.mp located).2.1)

/-- Where a path leads, and behind it names of which the first one is absent there: a straight path. -/
theorem straight_append {path here tail : Location}
    (located : tree.locate .follow path = .ok (.found here)) (real : tree.Real here)
    (plain : ∀ name ∈ tail, PlainName name) (short : pathBytes (path ++ tail.take 1) < pathLimit)
    (stops : ∀ name rest, tail = name :: rest → tree.present (path ++ [name]) = false) :
    tree.Straight (here ++ tail) := by
  refine ⟨fun name mem => ?_, fun way inside taken target isLink => ?_⟩
  · exact (List.mem_append.mp mem).elim (real.plain name) (plain name)
  · rcases List.prefix_or_prefix_of_prefix inside (List.prefix_append here tail) with above | below
    · exact real.not_link above target isLink
    · obtain ⟨more, rfl⟩ := below
      cases more with
      | nil => exact real.not_link (List.prefix_rfl) target (by simpa using isLink)
      | cons name rest =>
        obtain ⟨left, rfl⟩ : name :: rest <+: tail := (List.prefix_append_right_inj here).mp inside
        obtain ⟨entries, stands⟩ := directory_of_at?_append isLink (List.cons_ne_nil name rest)
        have first : tree.at? (here ++ [name] ++ rest) = some (link target) := by
          simpa using isLink
        obtain ⟨node, found⟩ := exists_at?_of_append first
        rw [at?_child stands] at found
        have there := present_child located stands found (plain name (by simp)) (taken name (by simp)) short
        rw [stops name (rest ++ left) rfl] at there
        exact Bool.noConfusion there

/-- The location that `realLocation` answers is where the path leads. -/
theorem locate_of_realLocation {path here : Location} (answered : tree.realLocation path = .ok here) :
    tree.locate .follow path = .ok (.found here) := by
  rw [realLocation] at answered
  split at answered
  · cases answered
  · cases answered
  · next location located =>
    split at answered
    · cases answered
    · rw [located, Except.ok.inj answered]

end FileTree

namespace Sandbox

variable {tree : FileTree} {sandbox : Sandbox}

/-- A path that ends at an absent name is settled without that name, which is appended. -/
theorem settle_of_absent {path tail : Location} {name : String}
    (absent : tree.present (path ++ [name]) = false) :
    settle tree (path ++ [name]).reverse tail = settle tree path.reverse (name :: tail) := by
  rw [List.reverse_append, List.reverse_singleton, List.singleton_append, settle, if_neg]
  simp [absent]

/-- A path to something present is settled by following it. -/
theorem settle_of_present {path tail : Location} (ne : path ≠ [])
    (there : tree.present path = true) :
    settle tree path.reverse tail = (tree.realLocation path).map (· ++ tail) := by
  obtain ⟨above, name, rfl⟩ := (List.eq_nil_or_concat path).resolve_left ne
  have written : (name :: above.reverse).reverse = above.concat name := by simp
  rw [List.concat_eq_append, List.reverse_append, List.reverse_singleton, List.singleton_append,
    settle, written, if_pos there, List.concat_eq_append]

/-- **How a path is settled**: a beginning of it is followed, and the rest is appended. The recursion drops
absent names from the end; `stops` says of the name dropped last that it is absent. -/
theorem exists_of_settle {upward tail physical : Location}
    (stops : ∀ name rest, tail = name :: rest → tree.present (upward.reverse ++ [name]) = false)
    (settled : settle tree upward tail = .ok physical) :
    ∃ way left here, upward.reverse = way ++ left ∧ tree.locate .follow way = .ok (.found here) ∧
      physical = here ++ (left ++ tail) ∧
      ∀ name rest, left ++ tail = name :: rest → tree.present (way ++ [name]) = false := by
  induction upward generalizing tail with
  | nil =>
    cases settled
    exact ⟨[], [], [], rfl, rfl, rfl, stops⟩
  | cons name upward ih =>
    rw [settle] at settled
    split at settled
    · obtain ⟨here, answered, rfl⟩ := map_eq_ok.mp settled
      exact ⟨_, [], here, (List.append_nil _).symm, FileTree.locate_of_realLocation answered, rfl, stops⟩
    · next absent =>
      have absentLast : ∀ other rest, name :: tail = other :: rest →
          tree.present (upward.reverse ++ [other]) = false := by
        rintro other rest same
        obtain ⟨rfl, rfl⟩ := List.cons.inj same
        simpa using absent
      obtain ⟨way, left, here, split, located, rfl, stopsThere⟩ := ih absentLast settled
      exact ⟨way, left ++ [name], here, by simp [split], located, by simp, by simpa using stopsThere⟩

/-- **What a path is resolved to is straight**, when the host takes the whole of it. -/
theorem settle_straight {path physical : Location} (top : tree.Real [])
    (plain : ∀ name ∈ path, PlainName name) (short : pathBytes path < pathLimit)
    (settled : settle tree path.reverse [] = .ok physical) : tree.Straight physical := by
  obtain ⟨way, left, here, split, located, rfl, stops⟩ := exists_of_settle (fun _ _ nil => by cases nil) settled
  rw [List.reverse_reverse] at split
  subst split
  have inside : way ++ left.take 1 <+: way ++ left :=
    (List.prefix_append_right_inj way).mpr (List.take_prefix 1 left)
  rw [List.append_nil] at stops ⊢
  exact FileTree.straight_append located ((FileTree.locate_ok.mp located).2.2.real top)
    (fun name mem => plain name (List.mem_append_right way mem))
    (Nat.lt_of_le_of_lt (FileTree.pathBytes_mono inside) short) stops

/-- **A sandbox stands** in a tree when its root is a directory there, called by plain names. -/
structure Stands (sandbox : Sandbox) (tree : FileTree) : Prop where
  plain : ∀ name ∈ sandbox.root, PlainName name
  isDirectory : ∃ entries, tree.at? sandbox.root = some (.directory entries)

/-- A virtual path **fits** when the host takes its written form behind the root. -/
def Fits (sandbox : Sandbox) (path : VirtualPath) : Prop :=
  pathBytes (sandbox.root ++ path.segments) < pathLimit

instance (sandbox : Sandbox) (path : VirtualPath) : Decidable (sandbox.Fits path) :=
  inferInstanceAs (Decidable (_ < _))

/-- The root of a standing sandbox is real. -/
theorem Stands.real (stands : sandbox.Stands tree) : tree.Real sandbox.root := by
  obtain ⟨entries, isDirectory⟩ := stands.isDirectory
  exact ⟨stands.plain, _, isDirectory, fun _ h => nomatch h⟩

/-- Behind the root of a standing sandbox, the segments of a virtual path are plain names. -/
theorem Stands.plain_append (stands : sandbox.Stands tree) (path : VirtualPath) :
    ∀ name ∈ sandbox.root ++ path.segments, PlainName name := by
  intro name mem
  exact (List.mem_append.mp mem).elim (stands.plain name) (path.plain name)

/-- A checked path is below the root, and it was settled on. -/
theorem resolveVirtual_ok {path : VirtualPath} {resolved : Resolved}
    (checked : sandbox.resolveVirtual tree path = .ok resolved) :
    resolved.virtualPath = path ∧ sandbox.root <+: resolved.physical ∧
      settle tree (sandbox.root ++ path.segments).reverse [] = .ok resolved.physical := by
  rw [resolveVirtual] at checked
  split at checked
  · cases checked
  · next physical settled =>
    split at checked
    · next inside =>
      cases checked
      exact ⟨rfl, List.isPrefixOf_iff_prefix.mp inside, settled⟩
    · cases checked

/-- **A checked path is straight**, when it fits. -/
theorem resolveVirtual_straight {path : VirtualPath} {resolved : Resolved}
    (stands : sandbox.Stands tree) (fits : sandbox.Fits path)
    (checked : sandbox.resolveVirtual tree path = .ok resolved) :
    tree.Straight resolved.physical := by
  obtain ⟨-, -, settled⟩ := resolveVirtual_ok checked
  exact settle_straight (stands.real.above List.nil_prefix) (stands.plain_append path) fits settled

/-- A straight path below the root of a standing sandbox leads to places within the root. -/
theorem Stands.within {path : Location} (stands : sandbox.Stands tree)
    (inside : sandbox.root <+: path) (straight : tree.Straight path) {last : LastLink} {place : Place}
    (located : tree.locate last path = .ok place) : place.Within sandbox.root := by
  have spelt := straight.locate located
  cases place with
  | found location =>
    rw [Place.location_found] at spelt
    exact spelt ▸ inside
  | vacant holder name =>
    obtain ⟨entries, isDirectory⟩ := stands.isDirectory
    obtain ⟨others, holds, missing⟩ := FileTree.locate_vacant located
    have free : tree.at? (holder ++ [name]) = none := by rw [FileTree.at?_child holds, missing]
    rw [← spelt, Place.location_vacant] at inside
    rcases List.prefix_concat_iff.mp inside with same | above
    · rw [same, free] at isDirectory
      cases isDirectory
    · exact above

/-- **Checked paths are confined.** A path whose written form the host takes, or that is resolved to a
path without a link on it, leads to places within the root and to no others, whatever is done with a
last link. A place is then the one that the physical path spells. -/
theorem resolve_confined {cwd : VirtualPath} {input : String} {path : Resolved}
    (stands : sandbox.Stands tree) (resolved : sandbox.resolve tree cwd input = .ok path)
    (followed : sandbox.Fits (cwd.join input) ∨ tree.Straight path.physical) :
    sandbox.root <+: path.physical ∧
      ∀ last place, tree.locate last path.physical = .ok place →
        place.location = path.physical ∧ place.Within sandbox.root := by
  obtain ⟨-, inside, -⟩ := resolveVirtual_ok resolved
  have straight : tree.Straight path.physical :=
    followed.elim (fun fits => resolveVirtual_straight stands fits resolved) id
  exact ⟨inside, fun last place located =>
    ⟨straight.locate located, stands.within inside straight located⟩⟩

/-- A link that stays inside is followed, and a file may be made behind it. -/
theorem resolve_confined_through_link :
    let tree : FileTree := .directory [("root", .directory
      [("alias", .link "/root/real"), ("real", .directory [])])]
    ∃ path, Sandbox.resolve ⟨["root"]⟩ tree VirtualPath.root "alias/new" = .ok path ∧
      path.physical = ["root", "real", "new"] ∧
      ["root"] <+: path.physical ∧ ∀ last place, tree.locate last path.physical = .ok place →
        place.location = path.physical ∧ place.Within ["root"] := by
  intro tree
  have stands : Stands ⟨["root"]⟩ tree := ⟨by simp [PlainName], _, rfl⟩
  have fits : Fits ⟨["root"]⟩ (VirtualPath.root.join "alias/new") := by
    unfold Fits
    decide +kernel
  have resolved : Sandbox.resolve ⟨["root"]⟩ tree VirtualPath.root "alias/new" =
      .ok ⟨VirtualPath.root.join "alias/new", ["root", "real", "new"]⟩ := rfl
  exact ⟨_, resolved, rfl, resolve_confined stands resolved (.inl fits)⟩

end Sandbox

/-! ## A path that is too long -/

namespace Overlong

/-- The longest name there can be. -/
def hop : String := String.ofList (List.replicate nameLimit 'L')

/-- A directory `d` in the root, with a link to itself and a link to a file that is no business of the
sandbox. -/
def tree : FileTree :=
  .directory
    [("outside", .directory [("secret.txt", .file (Text.encode "top secret"))]),
     ("root", .directory
       [("d", .directory [(hop, .link "."), ("out", .link "../../outside/secret.txt")])])]

/-- The sandbox over `/root`. -/
def sandbox : Sandbox := ⟨["root"]⟩

theorem mem_toList_hop {c : Char} (mem : c ∈ hop.toList) : c = 'L' := by
  rw [hop, String.toList_ofList] at mem
  exact List.eq_of_mem_replicate mem

/-- The directory `d`, reached by so many steps on the spot that its written form gets too long. -/
def cwd : VirtualPath where
  segments := "d" :: List.replicate 16 hop
  isSegment := by
    intro segment mem
    rcases List.mem_cons.mp mem with rfl | mem
    · refine ⟨by decide, by decide, by decide, fun c mem => ?_⟩
      rw [List.mem_singleton.mp mem]
      rfl
    · rw [List.eq_of_mem_replicate mem]
      refine ⟨by decide +kernel, by decide +kernel, by decide +kernel, fun c mem => ?_⟩
      rw [mem_toList_hop mem]
      rfl

/-- As much of the path as the host still takes. -/
def taken : Location := "root" :: "d" :: List.replicate 15 hop

/-- What `out` is resolved to there: the last step on the spot and the link have not been looked at. -/
def physical : Location := ["root", "d", hop, "out"]

theorem noNul {path : Location} (names : ∀ name ∈ path, name ∈ ["root", "d", hop, "out"]) :
    ∀ name ∈ path, '\x00' ∉ name.toList := by
  intro name mem nul
  have known := names name mem
  simp only [List.mem_cons, List.not_mem_nil, or_false] at known
  rcases known with rfl | rfl | rfl | rfl
  · exact absurd nul (by decide)
  · exact absurd nul (by decide)
  · exact absurd (mem_toList_hop nul) (by decide)
  · exact absurd nul (by decide)

theorem noNul_taken : ∀ name ∈ taken, '\x00' ∉ name.toList := by
  refine noNul fun name mem => ?_
  simp only [taken, List.mem_cons, List.mem_replicate] at mem
  rcases mem with rfl | rfl | ⟨-, rfl⟩ <;> simp

theorem taken_ne_nil : taken ≠ [] :=
  List.cons_ne_nil _ _

/-- The host still sees that the path goes on in `d`. -/
theorem present_taken : tree.present taken = true := by
  have kept : tree.locate .keep taken = .ok (.found ["root", "d", hop]) :=
    FileTree.locate_of_walks noNul_taken (by decide +kernel)
      (FileTree.walks_iff.mpr (ok_of_toOption (by decide +kernel)))
  exact FileTree.present_iff.mpr ⟨_, kept⟩

theorem realLocation_taken : tree.realLocation taken = .ok ["root", "d"] := by
  have reached : tree.locate .follow taken = .ok (.found ["root", "d"]) :=
    FileTree.locate_of_walks noNul_taken (by decide +kernel)
      (FileTree.walks_iff.mpr (ok_of_toOption (by decide +kernel)))
  rw [FileTree.realLocation, reached]
  rfl

/-- The end of the path is appended unseen, because the host cannot look at it. -/
theorem settle_eq :
    Sandbox.settle tree (sandbox.root ++ (cwd.join "out").segments).reverse [] = .ok physical := by
  have path : sandbox.root ++ (cwd.join "out").segments = taken ++ [hop] ++ ["out"] := by
    decide +kernel
  have long : pathLimit ≤ pathBytes (taken ++ [hop]) := by decide +kernel
  rw [path, Sandbox.settle_of_absent (FileTree.present_of_overlong
      (Nat.le_trans long (FileTree.pathBytes_mono (List.prefix_append _ _)))),
    Sandbox.settle_of_absent (FileTree.present_of_overlong long),
    Sandbox.settle_of_present taken_ne_nil present_taken, realLocation_taken]
  rfl

/-- The shorter path that comes of it leads out of the root. -/
theorem locate_eq : tree.locate .follow physical = .ok (.found ["outside", "secret.txt"]) :=
  FileTree.locate_of_walks (noNul fun _ mem => mem) (by decide +kernel)
    (FileTree.walks_iff.mpr (ok_of_toOption (by decide +kernel)))

end Overlong

/-- **An overlong path leads out.** The sandbox resolves it without complaint, and the host gets by the
result to a file outside of the root. -/
theorem Sandbox.resolve_overlong_leads_out :
    Overlong.sandbox.Stands Overlong.tree ∧
      ∃ path place, Overlong.sandbox.resolve Overlong.tree Overlong.cwd "out" = .ok path ∧
        Overlong.tree.locate .follow path.physical = .ok place ∧
        ¬ place.Within Overlong.sandbox.root := by
  refine ⟨⟨by simp [Overlong.sandbox, PlainName], _, rfl⟩,
    ⟨Overlong.cwd.join "out", Overlong.physical⟩, _, ?_, Overlong.locate_eq, ?_⟩
  · rw [Sandbox.resolve, Sandbox.resolveVirtual, Overlong.settle_eq]
    rfl
  · intro inside
    have outside : ¬ ["root"] <+: ["outside", "secret.txt"] := by decide
    exact outside inside

end ConfinedShell
