import ConfinedShell.Proofs.Listing
import ConfinedShell.Proofs.PathLaws
import ConfinedShell.Proofs.Steady

/-!
# What is taken away by its name

`rm` and `mv` follow their first operand to its end, also when the entry that it names is a link, and what they take
away is the node at that end. So the node is gone, and the directory above does not list the name any more, unless
the entry was a link. In that case the link is what stays (`Sandbox.Taken`). A name that is no text is shown with
replacement characters, and may be shown like another one (`Sandbox.Misread`).

A listing is read through links as well, after the tree has changed. It is of the directory that the path led to
before, since the change was steady (`Sandbox.Reaches.eq_of_settle`). So the name is looked for where its entry was
(`Sandbox.namesLink_of_lists`, `Sandbox.lists_of_namesLink`).
-/

set_option autoImplicit false

namespace ConfinedShell

namespace Entries

/-- A name stands in the entries when a node is found by it. -/
theorem exists_find?_iff {entries : Entries} {name : String} :
    (∃ node, find? name entries = some node) ↔ name ∈ entries.map Prod.fst := by
  induction entries with
  | nil => simp [find?]
  | cons entry rest ih =>
    rw [find?, List.map_cons, List.mem_cons, ← ih]
    by_cases same : entry.1 = name
    · simp [same]
    · simp [same, Ne.symm same]

end Entries

namespace FileTree

variable {before after : FileTree} {location : Location}

/-- **A tree has lost a node**: nothing is any more where it stood, and wherever else something was, something is. The
change was steady, unless the node was a link. -/
structure Lost (before after : FileTree) (location : Location) : Prop where
  gone : after.at? location = none
  stays : ∀ {here node}, ¬ location <+: here → before.at? here = some node → ∃ now, after.at? here = some now
  steady : (∀ target, before.at? location ≠ some (link target)) → Steady before after

/-- A tree has lost what was removed from it. -/
theorem Lost.of_remove (ne : location ≠ []) : before.Lost (before.remove location) location where
  gone := at?_remove_self ne
  stays apart stood := exists_of_kindAt? (kindAt?_remove_outside apart before) stood
  steady _ := before.steady_remove location

/-- A tree has lost what was moved in it. -/
theorem Moved.lost {target : Location} (moved : before.Moved after location target) : before.Lost after location where
  gone := moved.gone
  stays := moved.stays
  steady := moved.steady

end FileTree

namespace Sandbox

variable {sandbox : Sandbox} {tree before after : FileTree} {path : VirtualPath} {name : String} {location : Location}

/-! ## Names that are listed -/

/-- A name of a path is shown as it is. -/
theorem shownName_of_fileName? (named : path.fileName? = some name) : shownName name = name := by
  have segment := path.isSegment name (List.mem_of_getLast? named)
  exact if_neg (isSegment_iff.mp segment).2.2.2.1

/-- **A directory lists a name** when it can be listed and an entry is shown by the name. -/
def Lists (sandbox : Sandbox) (tree : FileTree) (path : VirtualPath) (name : String) (storage : Storage := {}) : Prop :=
  ∃ entries, sandbox.list tree path storage = .ok entries ∧ ∃ entry ∈ entries, entry.name = name

/-- **A name is misread** in a directory when it is shown there for another one, which is no text. -/
def Misread (sandbox : Sandbox) (tree : FileTree) (path : VirtualPath) (name : String) : Prop :=
  ∃ holder other node, sandbox.Reaches tree path holder ∧ tree.at? (holder ++ [other]) = some node ∧
    other ≠ name ∧ shownName other = name

/-- **A path names a link** when its last name is that of a link in the directory that the path above reaches. -/
def NamesLink (sandbox : Sandbox) (tree : FileTree) (path : VirtualPath) : Prop :=
  ∃ holder name target, sandbox.Reaches tree path.parent holder ∧ path.fileName? = some name ∧
    tree.at? (holder ++ [name]) = some (.link target)

variable {storage : Storage}

/-- What is listed is a directory that the path reaches, and the entries are shown for the names in it. -/
theorem list_ok {entries : List Entry} (listed : sandbox.list tree path storage = .ok entries) :
    ∃ holder inner, sandbox.Reaches tree path holder ∧ tree.at? holder = some (.directory inner) ∧
      ∀ shown, (∃ entry ∈ entries, entry.name = shown) ↔
        ∃ name node, tree.at? (holder ++ [name]) = some node ∧ shownName name = shown := by
  obtain ⟨directory, checked, listed⟩ := bind_eq_ok.mp listed
  rw [Resolved.readDirectory] at listed
  split at listed
  · cases listed
  obtain ⟨inner, answered, rfl⟩ := map_eq_ok.mp listed
  have answered := Resolved.told_eq_ok.mp answered
  rw [FileTree.readDirectory] at answered
  split at answered
  · cases answered
  · next isDirectory =>
    cases answered
    obtain ⟨holder, located, stands⟩ := FileTree.stat_ok.mp isDirectory
    refine ⟨holder, inner, ⟨directory, checked, located⟩, stands, fun shown => ?_⟩
    simp only [FileTree.at?_child stands, exists_and_right, Entries.exists_find?_iff, List.mem_map, Entries.mem_ranked,
      exists_exists_and_eq_and]
  · cases answered

/-! ## Names that are lost -/

/-- **A name whose node is gone** is listed only where a link has it, or where it is misread. -/
theorem namesLink_of_lists (stands : sandbox.Stands before) (lost : before.Lost after location) {resolved : Resolved}
    (named : path.fileName? = some name) (checked : sandbox.resolveVirtual before path = .ok resolved)
    (located : before.locate .keep resolved.physical = .ok (.found location))
    (lists : sandbox.Lists after path.parent name storage) :
    sandbox.NamesLink before path ∨ sandbox.Misread after path.parent name := by
  obtain ⟨entries, listed, entry⟩ := lists
  obtain ⟨holder, inner, reaches, isDirectory, names⟩ := list_ok listed
  obtain ⟨other, now, standsNow, shown⟩ := (names name).mp entry
  by_cases differ : other ≠ name
  · exact .inr ⟨holder, other, now, reaches, standsNow, differ, shown⟩
  obtain rfl : other = name := not_not.mp differ
  refine .inl ?_
  rcases physical_of_settle stands named checked with
    ⟨above, settled, physical⟩ | ⟨⟨origin, target, leads, isLink⟩, real⟩
  · -- What is gone is the entry of the name.
    obtain ⟨-, within, -⟩ := resolveVirtual_ok checked
    rw [physical] at located within
    obtain ⟨origin, locatedAbove, rfl, -⟩ :=
      FileTree.locate_name (path.plain other (List.mem_of_getLast? named)) located
    by_cases link : ∃ target, before.at? (origin ++ [other]) = some (.link target)
    · obtain ⟨target, isLink⟩ := link
      have inside : sandbox.root <+: above := by
        refine (List.prefix_concat_iff.mp within).resolve_left fun root => ?_
        rw [← root] at located
        have same : origin ++ [other] = sandbox.root := stands.real.straight.locate located
        exact stands.real.not_link List.prefix_rfl target (same ▸ isLink)
      exact ⟨origin, other, target, ⟨_, resolveVirtual_of_settle inside settled, locatedAbove⟩, named, isLink⟩
    · obtain rfl : origin = holder :=
        reaches.eq_of_settle isDirectory (lost.steady (not_exists.mp link)) stands settled locatedAbove
      cases standsNow.symm.trans lost.gone
  · -- What is gone is where the link leads to.
    obtain rfl : location = resolved.physical := real.straight.locate located
    have steady := lost.steady (real.not_link List.prefix_rfl)
    exact ⟨origin, other, target, reaches.of_leads isDirectory steady stands leads, named, isLink⟩

/-- **A link that was named** is listed as before, when it is not what was lost and its directory can be listed. -/
theorem lists_of_namesLink (stands : sandbox.Stands before) (lost : before.Lost after location)
    (noLink : ∀ target, before.at? location ≠ some (.link target)) (named : path.fileName? = some name)
    (link : sandbox.NamesLink before path) {entries : List Entry}
    (listed : sandbox.list after path.parent storage = .ok entries) :
    sandbox.Lists after path.parent name storage := by
  obtain ⟨origin, _, target, ⟨above, checked, located⟩, named', isLink⟩ := link
  cases named.symm.trans named'
  obtain ⟨holder, inner, reaches, isDirectory, names⟩ := list_ok listed
  obtain ⟨-, -, settled⟩ := resolveVirtual_ok checked
  obtain rfl : origin = holder := reaches.eq_of_settle isDirectory (lost.steady noLink) stands settled located
  -- The link is not what is gone, and it is not in that either, as its directory is still there.
  have apart : ¬ location <+: origin ++ [name] := by
    intro within
    rcases List.prefix_concat_iff.mp within with rfl | ⟨rest, rfl⟩
    · exact noLink target isLink
    · cases isDirectory.symm.trans (FileTree.at?_append_of_none lost.gone rest)
  obtain ⟨now, stays⟩ := lost.stays apart isLink
  exact ⟨entries, listed, (names name).mpr ⟨name, now, stays, shownName_of_fileName? named⟩⟩

/-- **What a path leads to was taken away**: it is gone from where the path was resolved to. The directory above lists
the last name of the path only if that was the name of a link, or is misread; in the case of a link it does when it can
be listed at all, unless it was the link that was taken away. -/
structure Taken (sandbox : Sandbox) (before after : FileTree) (path : VirtualPath) (name : String)
    (location : Location) : Prop where
  named : path.fileName? = some name
  found : ∃ resolved, sandbox.resolveVirtual before path = .ok resolved ∧
    before.locate .keep resolved.physical = .ok (.found location)
  gone : after.at? location = none
  unlisted : ∀ storage, sandbox.Lists after path.parent name storage →
    sandbox.NamesLink before path ∨ sandbox.Misread after path.parent name
  linked : sandbox.NamesLink before path → (∀ target, before.at? location ≠ some (.link target)) →
    ∀ storage entries, sandbox.list after path.parent storage = .ok entries →
      sandbox.Lists after path.parent name storage

/-- A node that is lost where a path leads was taken away. -/
theorem taken_of_lost (stands : sandbox.Stands before) (lost : before.Lost after location) {resolved : Resolved}
    (named : path.fileName? = some name) (checked : sandbox.resolveVirtual before path = .ok resolved)
    (located : before.locate .keep resolved.physical = .ok (.found location)) :
    sandbox.Taken before after path name location where
  named := named
  found := ⟨resolved, checked, located⟩
  gone := lost.gone
  unlisted _ := namesLink_of_lists stands lost named checked located
  linked link noLink _ _ := lists_of_namesLink stands lost noLink named link

/-! ## What paths are resolved to -/

variable {resolved : Resolved}

/-- The names of what a path is resolved to are plain. -/
theorem plain_of_resolveVirtual (stands : sandbox.Stands tree)
    (checked : sandbox.resolveVirtual tree path = .ok resolved) : ∀ name ∈ resolved.physical, PlainName name := by
  obtain ⟨-, -, settled⟩ := resolveVirtual_ok checked
  obtain ⟨way, left, here, split, followed, same, -⟩ := exists_of_settle (fun _ _ nil => by cases nil) settled
  rw [List.reverse_reverse] at split
  rw [same, List.append_nil]
  intro name mem
  rcases List.mem_append.mp mem with mem | mem
  · exact ((FileTree.locate_ok.mp followed).2.2.real (stands.real.above List.nil_prefix)).plain name mem
  · exact stands.plain_append path name (split ▸ List.mem_append_right way mem)

/-- A path that leads to something else than a directory is not the root. -/
theorem not_isRoot_of_located (stands : sandbox.Stands tree) {location : Location}
    (checked : sandbox.resolveVirtual tree path = .ok resolved)
    (located : tree.locate .keep resolved.physical = .ok (.found location))
    (noDirectory : ∀ entries, tree.at? location ≠ some (.directory entries)) : ¬ path.isRoot = true := by
  intro isRoot
  have root : sandbox.root ++ path.segments = sandbox.root := by
    rw [List.isEmpty_iff.mp isRoot, List.append_nil]
  have real : tree.Real (sandbox.root ++ path.segments) := by
    rw [root]
    exact stands.real
  cases checked.symm.trans (resolveVirtual_of_real real)
  obtain rfl : location = sandbox.root ++ path.segments := real.straight.locate located
  obtain ⟨entries, isDirectory⟩ := stands.isDirectory
  rw [root] at noDirectory
  exact noDirectory entries isDirectory

/-! ## Removing and moving -/

variable {scene : Scene} {output : Output}

/-- **A removal** takes away what its path leads to. -/
theorem taken_of_removal {input : String} (stands : sandbox.Stands scene.tree)
    (removed : sandbox.removal scene input = .ok (output, after)) :
    ∃ name location, sandbox.Taken scene.tree after (scene.cwd.join input) name location := by
  obtain ⟨path, resolved, -, performed, -⟩ := removal_ok removed
  obtain ⟨location, located, noDirectory, rfl⟩ := FileTree.exists_of_removeFile (Resolved.told_eq_ok.mp performed)
  obtain ⟨name, named⟩ := VirtualPath.exists_fileName? (not_isRoot_of_located stands resolved located noDirectory)
  have below : location ≠ [] := by
    rintro rfl
    obtain ⟨entries, top⟩ := stands.exists_top
    exact noDirectory entries (congrArg some top)
  exact ⟨name, location, taken_of_lost stands (.of_remove below) named resolved located⟩

/-- **A move** from one place to another takes away what its first path leads to. -/
theorem taken_of_moving {first second : String} {source place : Resolved} (stands : sandbox.Stands scene.tree)
    (resolved : sandbox.resolve scene.tree scene.cwd first = .ok source)
    (goes : sandbox.destination scene source second = .ok place)
    (apart : scene.tree.locate .keep source.physical ≠ scene.tree.locate .keep place.physical)
    (moved : sandbox.moving scene first second = .ok (output, after)) :
    ∃ name location, sandbox.Taken scene.tree after (scene.cwd.join first) name location := by
  obtain ⟨_, _, resolved', -, goes', outcome⟩ := moving_ok moved
  cases resolved.symm.trans resolved'
  cases goes.symm.trans goes'
  rcases outcome with ⟨rfl, -⟩ | ⟨-, performed, -⟩
  · exact absurd rfl apart
  rw [Resolved.moveTo] at performed
  split at performed
  · cases performed
  next below =>
  obtain ⟨path, checked⟩ := exists_of_destination goes
  obtain ⟨origin, target, located, locatedTo, outcome⟩ := FileTree.exists_of_rename
    (plain_of_resolveVirtual stands resolved) (plain_of_resolveVirtual stands checked)
    (Resolved.told_eq_ok.mp performed)
  rcases outcome with ⟨rfl, -⟩ | ⟨node, renamed⟩
  · exact absurd (located.trans locatedTo.symm) apart
  rw [(resolveVirtual_ok resolved).1] at below
  obtain ⟨name, named⟩ := VirtualPath.exists_fileName? below
  exact ⟨name, origin, taken_of_lost stands renamed.moved.lost named resolved located⟩

end Sandbox

/-! ## Lines that take away -/

namespace Session

variable {σ : Type} {session : Session σ} {now : Moment} {suffix line : String}

/-- **A line takes away** what a path leads to: it is a call of `rm` that succeeds, or one of `mv` that reports that the
move is complete, from one place to another. -/
inductive Takes (session : Session σ) (now : Moment) (line : String) : VirtualPath → Prop where
  | rm {input : String} {output : Output} {after : Scene}
      (ends : session.Ends now line "rm" [input] output after) : Takes session now line (session.scene.cwd.join input)
  | mv {first second : String} {source place : Resolved}
      (tokens : tokenize (Text.trim line) = some ("mv", [first, second]))
      (reported : session.added now line = ["move complete"])
      (resolved : session.sandbox.resolve session.scene.tree session.scene.cwd first = .ok source)
      (goes : session.sandbox.destination session.scene source second = .ok place)
      (apart : session.scene.tree.locate .keep source.physical ≠ session.scene.tree.locate .keep place.physical) :
      Takes session now line (session.scene.cwd.join first)

/-- **What is taken away by a path** is the node that the path was resolved to, whatever links there are and however
long the path is. If `rm` succeeds, or `mv` reports that the move between two places is complete, nothing is where that
node was, and the last name of the path is not listed where it was named, unless it was the name of a link or another
name, which is no text, is shown like it. -/
theorem taken_of_takes (builtin : session.registry = ⟨Commands.builtin suffix⟩)
    (stands : session.sandbox.Stands session.scene.tree) {path : VirtualPath} (takes : session.Takes now line path) :
    ∃ name location,
      session.sandbox.Taken session.scene.tree (session.process now line).scene.tree path name location := by
  cases takes with
  | rm ends =>
    obtain ⟨tree, removed, rfl⟩ := (concludes_rm builtin now ends.tokens).of_ends ends
    rw [ends.scene_process]
    exact Sandbox.taken_of_removal stands removed
  | mv tokens reported resolved goes apart =>
    have concludes := concludes_mv builtin now tokens
    obtain ⟨output, tree, moved, -⟩ := concludes.of_added reported (by decide)
    rw [moved] at concludes
    rw [concludes.ends.scene_process]
    exact Sandbox.taken_of_moving stands resolved goes apart moved

end Session

/-! ## Names of links -/

namespace Shelf

/-- A directory with a file and a link to it, and another directory that links to the first one. -/
def tree : FileTree :=
  .directory [("root", .directory
    [("d", .directory [("f", .file (Text.encode "text")), ("g", .link "f")]),
      ("e", .directory [("back", .link "../d")])])]

/-- A session in the second directory. -/
def session : Session Unit :=
  { Session.start ⟨Commands.builtin ""⟩ ⟨["root"]⟩ (Clock.fixed ⟨2024, 1, 1, 0, 0, 0⟩ 0) tree () with
    scene := ⟨tree, VirtualPath.parse "/e"⟩ }

theorem stands : session.sandbox.Stands session.scene.tree :=
  ⟨by simp [session, Session.start, PlainName], _, rfl⟩

/-- A session in a directory with two files. The name of the first one is a byte that is no text; the second one is
called by the replacement character. -/
def garbled : Session Unit :=
  Session.start ⟨Commands.builtin ""⟩ ⟨["root"]⟩ (Clock.fixed ⟨2024, 1, 1, 0, 0, 0⟩ 0)
    (.directory [("root", .directory [("/ÿ", .file []), ("\uFFFD", .file [])])]) ()

end Shelf

namespace Session

open ConfinedShell.Shelf

/-- Behind a link the file is removed by its own name, which is not listed any more. By the name of the link to it the
file is moved, and this name is listed as before. -/
theorem taken_of_takes_of_links :
    (session.sandbox.Taken tree (session.process 0 "rm back/f").scene.tree (session.scene.cwd.join "back/f") "f"
        ["root", "d", "f"] ∧
      ¬ session.sandbox.Lists (session.process 0 "rm back/f").scene.tree (VirtualPath.parse "/e/back") "f") ∧
      session.sandbox.Taken tree (session.process 0 "mv back/g .").scene.tree (session.scene.cwd.join "back/g") "g"
          ["root", "d", "f"] ∧
        session.sandbox.Lists (session.process 0 "mv back/g .").scene.tree (VirtualPath.parse "/e/back") "g" := by
  have builtin : session.registry = ⟨Commands.builtin ""⟩ := rfl
  constructor
  · have ends : session.Ends 0 "rm back/f" "rm" ["back/f"] (.text "file removed")
        (session.process 0 "rm back/f").scene := ⟨by decide +kernel, rfl⟩
    obtain ⟨name, location, taken⟩ := taken_of_takes builtin stands (.rm ends)
    cases taken.named
    obtain ⟨resolved, checked, located⟩ := taken.found
    cases checked
    cases located
    refine ⟨taken, fun lists => ?_⟩
    rcases taken.unlisted _ lists with
      ⟨holder, name, target, ⟨directory, checked, located⟩, named, isLink⟩ |
      ⟨holder, other, node, ⟨directory, checked, located⟩, stands, differ, shown⟩
    · cases checked
      cases located
      cases named
      cases isLink
    · cases checked
      obtain rfl : ["root", "d"] = holder := by
        cases located
        rfl
      have remains : (session.process 0 "rm back/f").scene.tree.at? ["root", "d"] =
          some (.directory [("g", .link "f")]) := rfl
      have left : Entries.find? other [("g", .link "f")] = some node :=
        (FileTree.at?_child remains other).symm.trans stands
      rw [Entries.find?] at left
      split at left
      · next same => exact absurd (same ▸ shown) (by decide)
      · cases left
  · have tokens : tokenize (Text.trim "mv back/g .") = some ("mv", ["back/g", "."]) := by decide +kernel
    have reported : session.added 0 "mv back/g ." = ["move complete"] := by decide +kernel
    have resolved : session.sandbox.resolve session.scene.tree session.scene.cwd "back/g" =
      .ok ⟨session.scene.cwd.join "back/g", ["root", "d", "f"]⟩ := rfl
    have goes : session.sandbox.destination session.scene ⟨session.scene.cwd.join "back/g", ["root", "d", "f"]⟩ "." =
      .ok ⟨session.scene.cwd.join "g", ["root", "e", "g"]⟩ := rfl
    have apart : session.scene.tree.locate .keep ["root", "d", "f"] ≠
      session.scene.tree.locate .keep ["root", "e", "g"] := fun same => by cases same
    obtain ⟨name, location, taken⟩ := taken_of_takes builtin stands (.mv tokens reported resolved goes apart)
    cases taken.named
    obtain ⟨_, checked, located⟩ := taken.found
    cases checked
    cases located
    have link : session.sandbox.NamesLink tree (session.scene.cwd.join "back/g") :=
      ⟨["root", "d"], "g", "f", ⟨⟨VirtualPath.parse "/e/back", ["root", "d"]⟩, rfl, rfl⟩, rfl, rfl⟩
    have noLink (target : String) : tree.at? ["root", "d", "f"] ≠ some (.link target) := fun isLink => by cases isLink
    exact ⟨taken, taken.linked link noLink {} _ rfl⟩

/-- **Not every name that was removed is gone.** By the name of a link the file behind it is removed, and the link stays
in its directory. Where a name that is no text is shown with a replacement character, the file that is called by this
character can be removed, and a file of its name is listed as before. -/
theorem rm_of_link_leaves_name :
    (session.Ends 0 "rm /d/g" "rm" ["/d/g"] (.text "file removed") (session.process 0 "rm /d/g").scene ∧
      (session.scene.cwd.join "/d/g").fileName? = some "g" ∧
      session.sandbox.Lists (session.process 0 "rm /d/g").scene.tree (session.scene.cwd.join "/d/g").parent "g") ∧
    garbled.Ends 0 "rm \uFFFD" "rm" ["\uFFFD"] (.text "file removed") (garbled.process 0 "rm \uFFFD").scene ∧
      (garbled.scene.cwd.join "\uFFFD").fileName? = some "\uFFFD" ∧
      garbled.sandbox.Lists (garbled.process 0 "rm \uFFFD").scene.tree (garbled.scene.cwd.join "\uFFFD").parent
        "\uFFFD" :=
  ⟨⟨⟨by decide +kernel, rfl⟩, by decide +kernel, [⟨"g", .file⟩], rfl, ⟨"g", .file⟩, by simp, rfl⟩,
    ⟨by decide +kernel, rfl⟩, by decide +kernel,
    [⟨"\uFFFD", .file⟩], ok_of_toOption (by decide +kernel), ⟨"\uFFFD", .file⟩, by simp, rfl⟩

end Session

end ConfinedShell
