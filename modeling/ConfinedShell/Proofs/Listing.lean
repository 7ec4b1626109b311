import ConfinedShell.Proofs.LinkFree
import ConfinedShell.Proofs.Sight

/-!
# What a listing tells of the outside

A directory is listed by what it holds itself: the names, their order, and for a file or a directory its sort. Only
a link is listed by what it leads to, and it is followed by the host, which knows no root. So of all that lies
outside a listing tells one thing, whether a link in the directory leads to a directory. Where two trees agree on
that and on what is in the root, the listings are the same (`Sandbox.list_eq_iff`), and a link that is followed
without looking outside agrees in any case.

The condition is needed: by a link that leads out a listing tells whether there is a directory at its end
(`Sandbox.list_tells_of_outside`).
-/

set_option autoImplicit false

namespace ConfinedShell

namespace Entries

/-- **Entries as a directory has them**: no name stands twice, and each name is a plain one. -/
structure WellFormed (entries : Entries) : Prop where
  distinct : (entries.map (·.1)).Nodup
  plain : ∀ entry ∈ entries, PlainName entry.1

/-- The node of an entry is found by its name, when the names are distinct. -/
theorem find?_of_mem {entries : Entries} {name : String} {node : FileTree}
    (distinct : (entries.map (·.1)).Nodup) (mem : (name, node) ∈ entries) :
    find? name entries = some node := by
  induction entries with
  | nil => cases mem
  | cons entry rest ih =>
    obtain ⟨absent, distinct⟩ := List.nodup_cons.mp distinct
    rw [find?]
    rcases List.mem_cons.mp mem with same | mem
    · rw [← same, if_pos rfl]
    · have differ : entry.1 ≠ name := fun same => absent (List.mem_map.mpr ⟨(name, node), mem, same.symm⟩)
      rw [if_neg differ]
      exact ih distinct mem

end Entries

namespace FileTree

variable {tree : FileTree} {path location : Location} {node : FileTree}

/-! ## What an entry leads to -/

/-- What is found at a real location by its path is what stands there. -/
theorem Real.eq_of_stat (real : tree.Real path) (stands : tree.at? path = some node) {reached : FileTree}
    (asked : tree.stat path = .ok reached) : reached = node := by
  obtain ⟨location, located, found⟩ := stat_ok.mp asked
  obtain rfl : location = path := real.straight.locate located
  rw [stands] at found
  exact (Option.some.inj found).symm

/-- A path that goes on behind a real location leads somewhere only if the path to that location does. -/
theorem Real.locate_of_append (real : tree.Real path) {name : String} {place : Place}
    (located : tree.locate .follow (path ++ [name]) = .ok place) :
    tree.locate .follow path = .ok (.found path) := by
  obtain ⟨names, length, walks⟩ := locate_ok.mp located
  have inside : path <+: path ++ [name] := List.prefix_append _ _
  have noNul : ∀ other ∈ path, '\x00' ∉ other.toList :=
    fun other mem => checkNames_ok names other (inside.subset mem)
  have short := Nat.lt_of_le_of_lt (pathBytes_mono inside) (checkLength_ok length)
  have fromTop : tree.Real ([] ++ path) := real
  rcases fromTop.leg .follow with reached | ⟨error, failed⟩
  · exact locate_of_walks noNul short (.arrives reached)
  · have failed : tree.leg .follow [] path = .failed error := failed
    have longer : tree.leg .follow [] (path ++ [name]) = .failed error := by
      rw [leg_append tree (List.cons_ne_nil name []) (by nofun) [] path, failed]
    cases walks with
    | arrives reached => rw [longer] at reached; cases reached
    | follows reached => rw [longer] at reached; cases reached

end FileTree

namespace Resolved

variable {tree : FileTree} {path : Resolved} {name : String}

/-- A file or a directory is listed as what it is. -/
theorem entryKind_of_real {node : FileTree} (real : tree.Real (path.physical ++ [name]))
    (stands : tree.at? (path.physical ++ [name]) = some node) :
    path.entryKind tree name node = if node.isDirectory then .directory else .file := by
  rw [entryKind]
  split
  · next reached asked => rw [real.eq_of_stat stands asked]
  · rfl

/-- A link is listed as a directory when it leads to one. -/
theorem entryKind_of_link {target : String} :
    path.entryKind tree name (.link target) =
      if tree.pathIsDirectory (path.physical ++ [name]) then .directory else .file := by
  rw [entryKind, FileTree.pathIsDirectory]
  cases tree.stat (path.physical ++ [name]) <;> rfl

end Resolved

namespace Sandbox

variable {sandbox : Sandbox} {tree other : FileTree} {path : VirtualPath} {entries : Entries}

/-! ## Listings -/

/-- **The listing of a directory**, by its virtual path. -/
def list (sandbox : Sandbox) (tree : FileTree) (path : VirtualPath) (storage : Storage := {}) :
    Except Failure (List Entry) := do
  (← sandbox.resolveVirtual tree path).readDirectory storage tree

/-- A directory below the root that is reached without a link is a real location. -/
theorem Stands.real_of_at? (stands : sandbox.Stands tree) {node : FileTree}
    (found : tree.at? (sandbox.root ++ path.segments) = some node) (noLink : ∀ target, node ≠ .link target) :
    tree.Real (sandbox.root ++ path.segments) :=
  ⟨stands.plain_append path, node, found, noLink⟩

/-- A path to a real location is resolved to what it spells. -/
theorem resolveVirtual_of_real (real : tree.Real (sandbox.root ++ path.segments)) :
    sandbox.resolveVirtual tree path = .ok (sandbox.spelt path) := by
  rw [resolveVirtual, settle_of_straight real.straight]
  exact if_pos (List.isPrefixOf_iff_prefix.mpr (List.prefix_append _ _))

/-- **How a directory is listed**: entry by entry, or with the failure to get at it. -/
theorem list_of_directory (stands : sandbox.Stands tree)
    (isDirectory : tree.at? (sandbox.root ++ path.segments) = some (.directory entries)) (storage : Storage) :
    sandbox.list tree path storage =
      match tree.stat (sandbox.root ++ path.segments) with
      | .error cause => .error (.ofHost path.text cause)
      | .ok _ => .ok ((entries.ranked (storage.rank (sandbox.root ++ path.segments))).map fun entry =>
          ⟨shownName entry.1, (sandbox.spelt path).entryKind tree entry.1 entry.2⟩) := by
  have real := stands.real_of_at? isDirectory nofun
  have noFile : (sandbox.spelt path).isRegular tree = false := by
    rw [Bool.eq_false_iff]
    intro regular
    obtain ⟨location, bytes, located, isFile⟩ := FileTree.pathIsRegular_iff.mp regular
    obtain rfl : location = sandbox.root ++ path.segments := real.straight.locate located
    rw [isDirectory] at isFile
    cases isFile
  have listed : sandbox.list tree path storage = (sandbox.spelt path).readDirectory storage tree := by
    rw [list, resolveVirtual_of_real real]
    rfl
  rw [listed, Resolved.readDirectory, noFile, FileTree.readDirectory, physical_spelt]
  cases asked : tree.stat (sandbox.root ++ path.segments) with
  | error cause => rfl
  | ok reached =>
    obtain rfl := real.eq_of_stat isDirectory asked
    rfl

/-- An entry of a directory that is no link is listed as what it is. -/
theorem entryKind_of_noLink (stands : sandbox.Stands tree)
    (isDirectory : tree.at? (sandbox.root ++ path.segments) = some (.directory entries))
    (wellFormed : entries.WellFormed) {name : String} {node : FileTree} (mem : (name, node) ∈ entries)
    (noLink : ∀ target, node ≠ .link target) :
    (sandbox.spelt path).entryKind tree name node = if node.isDirectory then .directory else .file := by
  have found := Entries.find?_of_mem wellFormed.distinct mem
  have real := (stands.real_of_at? isDirectory nofun).child isDirectory (wellFormed.plain _ mem) found noLink
  exact Resolved.entryKind_of_real real ((FileTree.at?_child isDirectory name).trans found)

/-! ## Two trees -/

/-- A location is **near** when it is the root, lies in it or holds it. -/
def Near (sandbox : Sandbox) (location : Location) : Prop :=
  location <+: sandbox.root ∨ sandbox.root <+: location

/-- A path is followed **inward** when nothing is looked at on the way that is not near. -/
def Inward (sandbox : Sandbox) (tree : FileTree) (path : Location) : Prop :=
  ∀ location ∈ tree.pathSeen .follow path, sandbox.Near location

instance (sandbox : Sandbox) (tree : FileTree) (path : Location) : Decidable (sandbox.Inward tree path) :=
  inferInstanceAs (Decidable (∀ location ∈ tree.pathSeen .follow path,
    location <+: sandbox.root ∨ sandbox.root <+: location))

/-- **The links of a directory agree** in two trees when each one leads to a directory in both or in neither. -/
def LinksAgree (sandbox : Sandbox) (tree other : FileTree) (path : VirtualPath) (entries : Entries) : Prop :=
  ∀ name target, (name, .link target) ∈ entries →
    other.pathIsDirectory (sandbox.root ++ path.segments ++ [name]) =
      tree.pathIsDirectory (sandbox.root ++ path.segments ++ [name])

/-- Trees that are the same in the root have the same shapes at near locations. -/
theorem Near.shapeAt?_eq {location : Location} (near : sandbox.Near location) (stands : sandbox.Stands tree)
    (inside : other.at? sandbox.root = tree.at? sandbox.root) :
    other.shapeAt? location = tree.shapeAt? location := by
  obtain ⟨held, isDirectory⟩ := stands.isDirectory
  rcases near with ⟨rest, same⟩ | ⟨rest, rfl⟩
  · have directory {now : FileTree} (found : now.at? sandbox.root = some (.directory held)) :
        now.shapeAt? location = some .directory := by
      rw [FileTree.shapeAt?_eq_directory]
      rw [← same] at found
      by_cases ends : rest = []
      · rw [ends, List.append_nil] at found
        exact ⟨held, found⟩
      · exact FileTree.directory_of_at?_append found ends
    rw [directory isDirectory, directory (inside.trans isDirectory)]
  · rw [FileTree.shapeAt?, FileTree.shapeAt?, FileTree.kindAt?, FileTree.kindAt?, FileTree.at?_append,
      FileTree.at?_append, inside]

/-- A real location in the root is found by its path in both trees, or in neither for the same reason. -/
theorem stat_eq_of_real (stands : sandbox.Stands tree)
    (inside : other.at? sandbox.root = tree.at? sandbox.root)
    (real : tree.Real (sandbox.root ++ path.segments)) :
    other.stat (sandbox.root ++ path.segments) = tree.stat (sandbox.root ++ path.segments) := by
  have near (location : Location) (mem : location ∈ tree.pathSeen .follow (sandbox.root ++ path.segments)) :
      sandbox.Near location :=
    List.prefix_or_prefix_of_prefix (real.prefix_of_mem_pathSeen mem) (List.prefix_append _ _)
  rw [FileTree.stat, FileTree.stat,
    FileTree.locate_eq_of_seen fun location mem => (near location mem).shapeAt?_eq stands inside]
  cases located : tree.locate .follow (sandbox.root ++ path.segments) with
  | error cause => rfl
  | ok place =>
    cases place with
    | vacant holder name => rfl
    | found location =>
      obtain rfl : location = sandbox.root ++ path.segments := real.straight.locate located
      dsimp only
      rw [FileTree.at?_append, FileTree.at?_append, inside]

/-- Links that are followed inward agree. -/
theorem linksAgree_of_inward (stands : sandbox.Stands tree)
    (inside : other.at? sandbox.root = tree.at? sandbox.root)
    (inward : ∀ name target, (name, FileTree.link target) ∈ entries →
      sandbox.Inward tree (sandbox.root ++ path.segments ++ [name])) :
    sandbox.LinksAgree tree other path entries := by
  intro name target mem
  refine FileTree.pathIsDirectory_eq_of_seen fun location seen => ?_
  exact (inward name target mem location seen).shapeAt?_eq stands inside

/-- A sandbox stands in every tree that is the same in the root. -/
theorem Stands.of_inside (stands : sandbox.Stands tree) (inside : other.at? sandbox.root = tree.at? sandbox.root) :
    sandbox.Stands other := by
  obtain ⟨held, isDirectory⟩ := stands.isDirectory
  exact ⟨stands.plain, held, inside.trans isDirectory⟩

/-- **When an entry is listed in the same way**: a link if it leads to a directory in both trees or in neither, any
other entry always. -/
theorem entryKind_eq_iff (stands : sandbox.Stands tree)
    (inside : other.at? sandbox.root = tree.at? sandbox.root)
    (isDirectory : tree.at? (sandbox.root ++ path.segments) = some (.directory entries))
    (wellFormed : entries.WellFormed) {name : String} {node : FileTree} (mem : (name, node) ∈ entries) :
    (sandbox.spelt path).entryKind other name node = (sandbox.spelt path).entryKind tree name node ↔
      ∀ target, node = .link target →
        other.pathIsDirectory (sandbox.root ++ path.segments ++ [name]) =
          tree.pathIsDirectory (sandbox.root ++ path.segments ++ [name]) := by
  by_cases isLink : ∃ target, node = .link target
  · obtain ⟨target, rfl⟩ := isLink
    rw [Resolved.entryKind_of_link, Resolved.entryKind_of_link, physical_spelt]
    have sort_inj : ∀ one other : Bool, (if one then EntryKind.directory else .file) =
        (if other then .directory else .file) ↔ one = other := by decide
    rw [sort_inj]
    exact ⟨fun same _ _ => same, fun same => same target rfl⟩
  · have noLink : ∀ target, node ≠ .link target := fun target same => isLink ⟨target, same⟩
    have isDirectory' : other.at? (sandbox.root ++ path.segments) = some (.directory entries) := by
      rw [FileTree.at?_append, inside, ← FileTree.at?_append, isDirectory]
    refine iff_of_true ?_ fun target same => absurd same (noLink target)
    rw [entryKind_of_noLink stands isDirectory wellFormed mem noLink,
      entryKind_of_noLink (stands.of_inside inside) isDirectory' wellFormed mem noLink]

/-- Where the path to a directory leads nowhere, no entry of it leads to a directory. -/
theorem pathIsDirectory_of_stat_error (real : tree.Real (sandbox.root ++ path.segments)) {cause : HostError}
    (failed : tree.stat (sandbox.root ++ path.segments) = .error cause) (name : String) :
    tree.pathIsDirectory (sandbox.root ++ path.segments ++ [name]) = false := by
  rw [Bool.eq_false_iff]
  intro leads
  obtain ⟨location, entries, located, -⟩ := FileTree.pathIsDirectory_iff.mp leads
  obtain ⟨node, stands, -⟩ := real.stands
  rw [FileTree.stat_ok.mpr ⟨_, real.locate_of_append located, stands⟩] at failed
  cases failed

/-- **When a directory is listed in the same way** in two trees that are the same in the root: exactly when its links
agree. -/
theorem list_eq_iff (stands : sandbox.Stands tree) (inside : other.at? sandbox.root = tree.at? sandbox.root)
    (isDirectory : tree.at? (sandbox.root ++ path.segments) = some (.directory entries))
    (wellFormed : entries.WellFormed) (storage : Storage) :
    sandbox.list other path storage = sandbox.list tree path storage ↔
      sandbox.LinksAgree tree other path entries := by
  have standsOther := stands.of_inside inside
  have isDirectory' : other.at? (sandbox.root ++ path.segments) = some (.directory entries) := by
    rw [FileTree.at?_append, inside, ← FileTree.at?_append, isDirectory]
  have real := stands.real_of_at? isDirectory nofun
  have stat := stat_eq_of_real stands inside real
  rw [list_of_directory stands isDirectory storage, list_of_directory standsOther isDirectory' storage, stat]
  cases asked : tree.stat (sandbox.root ++ path.segments) with
  | error cause =>
    refine iff_of_true rfl fun name target _ => ?_
    rw [pathIsDirectory_of_stat_error real asked,
      pathIsDirectory_of_stat_error (standsOther.real_of_at? isDirectory' nofun) (stat.trans asked)]
  | ok reached =>
    have same (entry : String × FileTree) (mem : entry ∈ entries) :=
      entryKind_eq_iff stands inside isDirectory wellFormed (show (entry.1, entry.2) ∈ entries from mem)
    rw [Except.ok.injEq, List.map_inj_left]
    constructor
    · intro listed name target mem
      exact (same _ mem).mp (Entry.mk.inj (listed _ (Entries.mem_ranked.mpr mem))).2 target rfl
    · intro agree entry mem
      have mem := Entries.mem_ranked.mp mem
      rw [(same entry mem).mpr fun target isLink => agree entry.1 target (isLink ▸ mem)]

end Sandbox

/-! ## The command -/

/-- What a command ends with in a scene, the scene that it leaves set aside. -/
def Command.ending (command : Command) (around : Surroundings) (arguments : List String) (scene : Scene) :
    Except Fault Output :=
  match command.run around arguments scene with
  | .ok output _ => .ok output
  | .error fault _ => .error fault

/-- What `ls` makes of a listing. -/
def Commands.lsAnswer : Except Failure (List Entry) → Except Fault Output
  | .error cause => .error (.failure (.command ("listing error: " ++ cause.message)))
  | .ok [] => .ok .silent
  | .ok entries => .ok (.text (Text.joinWith "   " (listedNames entries)))

/-- **What `ls` ends with** depends on the path that it looks up and on the listing alone. -/
theorem Commands.ending_ls {around : Surroundings} {arguments : List String} {scene : Scene} {path : VirtualPath}
    {directory : Resolved} (looked : lookups around.sandbox scene "ls" arguments = [path])
    (good : around.sandbox.resolveVirtual scene.tree path = .ok directory) :
    ls.ending around arguments scene = lsAnswer (directory.readDirectory around.storage scene.tree) := by
  have resolves {input : String} (same : scene.cwd.join input = path) :
      Action.resolve around input scene = .ok directory scene := by
    show Action.ofExcept (around.sandbox.resolve scene.tree scene.cwd input) scene = _
    rw [Sandbox.resolve, same, good]
    rfl
  have answers {input : String} (same : scene.cwd.join input = path) :
      ls.ending around [input] scene = lsAnswer (directory.readDirectory around.storage scene.tree) := by
    unfold Command.ending ls
    dsimp only
    rw [Action.bind_of_ok (resolves same)]
    have scenes : (get : Action Scene) scene = .ok scene scene := rfl
    rw [Action.bind_of_ok scenes]
    rcases directory.readDirectory around.storage scene.tree with cause | (_ | ⟨entry, rest⟩)
    · rfl
    · rfl
    · rfl
  rcases arguments with _ | ⟨input, _ | ⟨other, rest⟩⟩
  · exact answers (List.cons.inj looked).1
  · exact answers (List.cons.inj looked).1
  · cases looked

/-- **What listing a directory tells of the outside.** In two trees that are the same in the root, a directory that is
reached without a link is listed in the same way exactly when each of its links leads to a directory in both trees or
in neither, and `ls` then ends in the same way. Links that are followed inward agree. -/
theorem Sandbox.listing_tells_of_links {sandbox : Sandbox} {tree other : FileTree} {path : VirtualPath}
    {entries : Entries} (stands : sandbox.Stands tree) (inside : other.at? sandbox.root = tree.at? sandbox.root)
    (isDirectory : tree.at? (sandbox.root ++ path.segments) = some (.directory entries))
    (wellFormed : entries.WellFormed) :
    (∀ storage, sandbox.list other path storage = sandbox.list tree path storage ↔
        sandbox.LinksAgree tree other path entries) ∧
      (sandbox.LinksAgree tree other path entries → ∀ around cwd arguments, around.sandbox = sandbox →
        Commands.lookups sandbox ⟨tree, cwd⟩ "ls" arguments = [path] →
        Commands.ls.ending around arguments ⟨other, cwd⟩ = Commands.ls.ending around arguments ⟨tree, cwd⟩) ∧
      ((∀ name target, (name, .link target) ∈ entries →
        sandbox.Inward tree (sandbox.root ++ path.segments ++ [name])) →
        sandbox.LinksAgree tree other path entries) := by
  refine ⟨list_eq_iff stands inside isDirectory wellFormed, ?_, linksAgree_of_inward stands inside⟩
  rintro agree around cwd arguments rfl looked
  have isDirectory' : other.at? (around.sandbox.root ++ path.segments) = some (.directory entries) := by
    rw [FileTree.at?_append, inside, ← FileTree.at?_append, isDirectory]
  have good := resolveVirtual_of_real (stands.real_of_at? isDirectory nofun)
  have good' := resolveVirtual_of_real ((stands.of_inside inside).real_of_at? isDirectory' nofun)
  have listed := (list_eq_iff stands inside isDirectory wellFormed around.storage).mpr agree
  rw [list, list, good, good'] at listed
  have looked' : Commands.lookups around.sandbox ⟨other, cwd⟩ "ls" arguments = [path] := by
    match arguments with
    | [] => exact looked
    | [_] => exact looked
    | _ :: _ :: _ => cases looked
  rw [Commands.ending_ls looked' good', Commands.ending_ls looked good]
  exact congrArg Commands.lsAnswer listed

/-! ## A door -/

namespace Door

/-- The sandbox over `/root`. -/
def sandbox : Sandbox := ⟨["root"]⟩

/-- What `/quiet` holds: links that stay in the root and one that leads nowhere. -/
def quiet : Entries :=
  [("back", .link "../../root/sub"), ("gone", .link "nowhere"), ("note.txt", .file []), ("up", .link "..")]

/-- A link in the root leads to a place outside, where a directory is or not. -/
def tree (outside : Entries) : FileTree :=
  .directory
    [("outside", .directory outside),
     ("root", .directory
       [("door", .link "../outside/dir"), ("quiet", .directory quiet), ("sub", .directory [])])]

theorem stands (outside : Entries) : sandbox.Stands (tree outside) :=
  ⟨by simp [sandbox, PlainName], _, rfl⟩

theorem wellFormed_quiet : quiet.WellFormed :=
  ⟨by decide, by simp [quiet, PlainName]⟩

/-- The two listings of the root. -/
theorem list_root :
    sandbox.list (tree [("dir", .directory [])]) VirtualPath.root =
        .ok [⟨"door", .directory⟩, ⟨"quiet", .directory⟩, ⟨"sub", .directory⟩] ∧
      sandbox.list (tree []) VirtualPath.root =
        .ok [⟨"door", .file⟩, ⟨"quiet", .directory⟩, ⟨"sub", .directory⟩] :=
  ⟨ok_of_toOption (by decide +kernel), ok_of_toOption (by decide +kernel)⟩

end Door

/-- Behind a closed door nothing can be told: the links of `/quiet` are followed inward, also the one that goes up
above the root and comes back. -/
theorem Sandbox.listing_tells_of_links_of_quiet :
    let tree := Door.tree [("dir", .directory [])]
    let other := Door.tree []
    let path := VirtualPath.parse "quiet"
    Door.sandbox.list tree path =
        .ok [⟨"back", .directory⟩, ⟨"gone", .file⟩, ⟨"note.txt", .file⟩, ⟨"up", .directory⟩] ∧
      (Door.sandbox.list other path = Door.sandbox.list tree path ↔
        Door.sandbox.LinksAgree tree other path Door.quiet) ∧
      Door.sandbox.LinksAgree tree other path Door.quiet := by
  intro tree other path
  have inside : other.at? Door.sandbox.root = tree.at? Door.sandbox.root := rfl
  have isDirectory : tree.at? (Door.sandbox.root ++ path.segments) = some (.directory Door.quiet) := rfl
  obtain ⟨same, -, inward⟩ :=
    Sandbox.listing_tells_of_links (Door.stands _) inside isDirectory Door.wellFormed_quiet
  refine ⟨ok_of_toOption (by decide +kernel), same {}, inward fun name target mem => ?_⟩
  simp only [Door.quiet, List.mem_cons, Prod.mk.injEq, FileTree.link.injEq, reduceCtorEq, and_false, false_or,
    List.not_mem_nil, or_false] at mem
  rcases mem with ⟨rfl, -⟩ | ⟨rfl, -⟩ | ⟨rfl, -⟩
  · decide +kernel
  · decide +kernel
  · decide +kernel

/-- **A listing tells of the outside.** The trees are the same in the root, and the root is listed differently: by the
door a directory is seen, or it is not. -/
theorem Sandbox.list_tells_of_outside :
    ∃ tree other entries, Door.sandbox.Stands tree ∧ Door.sandbox.Stands other ∧
      other.at? Door.sandbox.root = tree.at? Door.sandbox.root ∧
      tree.at? (Door.sandbox.root ++ VirtualPath.root.segments) = some (.directory entries) ∧
      Door.sandbox.list other VirtualPath.root ≠ Door.sandbox.list tree VirtualPath.root := by
  refine ⟨Door.tree [("dir", .directory [])], Door.tree [], _, Door.stands _, Door.stands _, rfl, rfl, ?_⟩
  rw [Door.list_root.1, Door.list_root.2]
  simp

end ConfinedShell
