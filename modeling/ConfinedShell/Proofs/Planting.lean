import ConfinedShell.Proofs.Footprint
import ConfinedShell.Proofs.Seeding

/-!
# Seeding only adds

A tree **gains** what it has afterwards and had not before, while all that stood in it stays as it was
(`FileTree.Gains`). Seeding lets a tree gain two things only: directories on the way to a path of the seed, and the
files of the seed with their contents (`Seed.Asks`). That holds of every seeding, also of one that stops in the
middle; and one that succeeds counts the files that the tree has gained (`Seed.plant_only_adds`).

Which entries a seed asks for is said of the tree that is left, since links may lead its paths to directories that
seeding itself has made. A path is resolved there as it was at its turn, because whatever is made is made by a path
that the host takes (`Sandbox.resolveVirtual_of_hostPath`).
-/

set_option autoImplicit false

namespace ConfinedShell

open FileTree (Grown HostPath)

namespace FileTree

variable {tree before after : FileTree} {path location : Location}
variable {allowed : Location → Kind → Prop}

/-! ## Gains -/

/-- **A tree gains** nothing but what is allowed: all that stood in it stays as it was, and what is new is
allowed. -/
structure Gains (before after : FileTree) (allowed : Location → Kind → Prop) : Prop where
  keeps : ∀ location kind, before.kindAt? location = some kind → after.kindAt? location = some kind
  new : ∀ location kind, before.kindAt? location = none → after.kindAt? location = some kind →
    allowed location kind

theorem Gains.refl (tree : FileTree) (allowed : Location → Kind → Prop) : Gains tree tree allowed :=
  ⟨fun _ _ there => there, fun _ _ missing there => by rw [missing] at there; cases there⟩

theorem Gains.trans {first second third : FileTree} (one : Gains first second allowed)
    (two : Gains second third allowed) : Gains first third allowed := by
  refine ⟨fun location kind there => two.keeps location kind (one.keeps location kind there),
    fun location kind missing there => ?_⟩
  cases between : second.kindAt? location with
  | none => exact two.new location kind between there
  | some other =>
    have same := (two.keeps location other between).symm.trans there
    exact Option.some.inj same ▸ one.new location other missing between

/-- More may be allowed. -/
theorem Gains.mono {more : Location → Kind → Prop} (gains : Gains before after allowed)
    (weaker : ∀ location kind, allowed location kind → more location kind) : Gains before after more :=
  ⟨gains.keeps, fun location kind missing there => weaker location kind (gains.new location kind missing there)⟩

/-- A tree has grown that has gained no link. -/
theorem Gains.grown (gains : Gains before after allowed)
    (noLink : ∀ location target, ¬ allowed location (.link target)) : Grown before after := by
  refine ⟨fun location shape there => ?_, fun location target isLink => ?_⟩
  · obtain ⟨kind, isKind, rfl⟩ := Option.map_eq_some_iff.mp there
    rw [shapeAt?, gains.keeps location kind isKind, Option.map_some]
  · cases there : before.kindAt? location with
    | none => exact absurd (gains.new location _ there isLink) (noLink location target)
    | some kind => exact (gains.keeps location kind there).symm.trans isLink

/-- A node that holds nothing is gained when it is set where nothing was. -/
theorem Gains.put_leaf {new : FileTree} (vacant : tree.at? location = none)
    (leaf : ∀ rest, rest ≠ [] → new.kindAt? rest = none) :
    Gains tree (tree.put location new) fun other kind => other = location ∧ kind = new.kind := by
  refine ⟨fun other kind there => ?_, fun other kind missing there => ?_⟩
  · obtain ⟨node, found, rfl⟩ := Option.map_eq_some_iff.mp there
    exact kindAt?_put_of_vacant vacant found new
  · rcases kindAt?_put tree new location other with kept | ⟨rest, rfl, set⟩
    · rw [kept, missing] at there
      cases there
    · rw [set] at there
      by_cases ne : rest = []
      · subst ne
        rw [kindAt?, at?_nil, Option.map_some] at there
        exact ⟨List.append_nil location, (Option.some.inj there).symm⟩
      · rw [leaf rest ne] at there
        cases there

/-- A file is gained when it is set where nothing was. -/
theorem Gains.put_file (vacant : tree.at? location = none) (bytes : Text.Bytes) :
    Gains tree (tree.put location (file bytes)) fun other kind => other = location ∧ kind = .file bytes :=
  .put_leaf vacant fun _ => kindAt?_file_below bytes

/-- **Directories that are made by a straight path** are made on the way to its end, and nothing else is. -/
theorem Gains.of_makeDirectories (straight : tree.Straight path) :
    Gains tree (tree.makeDirectories path).1 fun location kind => kind = .directory ∧ location <+: path := by
  have made : Gains tree (tree.makeDirectories path).1 (fun location kind =>
      kind = .directory ∧ location <+: path) ∧ (tree.makeDirectories path).1.Straight path := by
    refine makeDirectories_keeps (fun now => Gains tree now _ ∧ now.Straight path)
      ⟨.refl tree _, straight⟩ ?_
    rintro now way after ⟨gains, straight⟩ inside made
    refine ⟨gains.trans ?_, straight.of_noNewLinks (.of_makeDirectory made)⟩
    obtain ⟨rfl, missing⟩ := makeDirectory_ok (straight.above inside) made
    refine (Gains.put_leaf missing fun rest => kindAt?_directory_below).mono ?_
    rintro other kind ⟨rfl, rfl⟩
    exact ⟨rfl, inside⟩
  exact made.1

/-- By a path that the host does not take no directory is made. -/
theorem makeDirectories_of_not_hostPath (refused : ¬ HostPath path) : (tree.makeDirectories path).1 = tree := by
  have fails : ∃ error, tree.makeDirectory path = .error error ∧ error ≠ .system .noEntry := by
    rw [makeDirectory, locate]
    cases names : checkNames path with
    | error error =>
      refine ⟨error, rfl, ?_⟩
      rw [checkNames] at names
      split at names <;> cases names
      exact fun same => by cases same
    | ok _ =>
      have long : pathLimit ≤ pathBytes path :=
        Nat.not_lt.mp fun short => refused ⟨checkNames_ok names, short⟩
      rw [checkLength, if_pos long]
      exact ⟨_, rfl, fun same => by cases same⟩
  obtain ⟨error, failed, other⟩ := fails
  have ensured : (tree.ensureDirectory path).1 = tree := by
    rw [ensureDirectory, failed]
    dsimp only
    split <;> rfl
  cases upward : path.reverse with
  | nil => rw [makeDirectories, upward, makeDirectoriesUp]
  | cons name above =>
    rw [makeDirectories, upward, makeDirectoriesUp, ← upward, List.reverse_reverse, ensureAfter, failed]
    split
    · next same => exact absurd (Except.error.inj same) other
    · exact ensured

/-! ## New files -/

/-- A file is new where nothing was before. -/
def IsNewFile (before after : FileTree) (location : Location) : Prop :=
  before.kindAt? location = none ∧ ∃ bytes, after.kindAt? location = some (.file bytes)

/-- **How many files are new**: they can be listed, each one once. -/
def NewFiles (before after : FileTree) (count : Nat) : Prop :=
  ∃ made : List Location, made.Nodup ∧ made.length = count ∧
    ∀ location, location ∈ made ↔ IsNewFile before after location

/-- The new files of two steps are those of the one and those of the other. -/
theorem NewFiles.trans {first second third : FileTree} {one two : Nat} {allowed' : Location → Kind → Prop}
    (new : NewFiles first second one) (newer : NewFiles second third two) (gains : Gains first second allowed)
    (gainsOn : Gains second third allowed') : NewFiles first third (one + two) := by
  obtain ⟨made, once, rfl, mem⟩ := new
  obtain ⟨madeOn, onceOn, rfl, memOn⟩ := newer
  refine ⟨made ++ madeOn, List.nodup_append.mpr ⟨once, onceOn, ?_⟩, List.length_append, fun location => ?_⟩
  · rintro location inFirst other inSecond rfl
    obtain ⟨-, bytes, isFile⟩ := (mem location).mp inFirst
    obtain ⟨missing, -⟩ := (memOn location).mp inSecond
    rw [missing] at isFile
    cases isFile
  · rw [List.mem_append, mem, memOn]
    constructor
    · rintro (⟨missing, bytes, isFile⟩ | ⟨missing, bytes, isFile⟩)
      · exact ⟨missing, bytes, gainsOn.keeps _ _ isFile⟩
      · refine ⟨?_, bytes, isFile⟩
        cases there : first.kindAt? location with
        | none => rfl
        | some kind => exact (gains.keeps location kind there).symm.trans missing
    · rintro ⟨missing, bytes, isFile⟩
      cases between : second.kindAt? location with
      | none => exact .inr ⟨between, bytes, isFile⟩
      | some kind =>
        have same := (gainsOn.keeps location kind between).symm.trans isFile
        exact .inl ⟨missing, bytes, same ▸ between⟩

end FileTree

open FileTree (Gains NewFiles SameOutside)

namespace Seed

variable {sandbox : Sandbox} {tree after : FileTree} {location : Location} {kind : FileTree.Kind}
variable {paths : List VirtualPath} {files : List SeedFile} {fate : SeedFile → Option Trouble}

/-! ## What a seed asks for -/

/-- A location is **on the way** to a virtual path when that is resolved to a path which passes the location or
ends there, and which the host takes. -/
def OnWay (sandbox : Sandbox) (tree : FileTree) (virtual : VirtualPath) (location : Location) : Prop :=
  ∃ path, sandbox.resolveVirtual tree virtual = .ok path ∧ HostPath path.physical ∧ location <+: path.physical

/-- **What a file of a seed holds**: its contents, or what had arrived of them when the storage gave trouble. -/
def Holds (trouble : Option Trouble) (file : SeedFile) (bytes : Text.Bytes) : Prop :=
  bytes = Text.encode file.contents ∨
    ∃ count error, trouble = some ⟨some count, error⟩ ∧ bytes = (Text.encode file.contents).take count

/-- **What is asked for** by paths of directories and by files, each of which has its fate. -/
inductive Asks (sandbox : Sandbox) (fate : SeedFile → Option Trouble) (tree : FileTree) (paths : List VirtualPath)
    (files : List SeedFile) : Location → FileTree.Kind → Prop where
  /-- A directory on the way to one of the directories. -/
  | directory {virtual : VirtualPath} {location : Location} (listed : virtual ∈ paths)
      (onWay : OnWay sandbox tree virtual location) : Asks sandbox fate tree paths files location .directory
  /-- One of the files with what it holds, at the location that its path is resolved to. -/
  | file {file : SeedFile} {path : Resolved} {bytes : Text.Bytes} (listed : file ∈ files)
      (checked : sandbox.resolveVirtual tree (VirtualPath.parse file.path) = .ok path)
      (host : HostPath path.physical) (holds : Holds (fate file) file bytes) :
      Asks sandbox fate tree paths files path.physical (.file bytes)

/-- The paths of the directories that a seed asks for: those that it lists, and those that hold its files. -/
def directories (seed : Seed) : List VirtualPath :=
  seed.dirs.map VirtualPath.parse ++ seed.files.map fun file => (VirtualPath.parse file.path).parent

/-- No link is asked for. -/
theorem not_asks_link {target : String} : ¬ Asks sandbox fate tree paths files location (.link target) :=
  nofun

/-- What is asked for is asked for with more paths and files. -/
theorem Asks.mono {morePaths : List VirtualPath} {moreFiles : List SeedFile}
    (asks : Asks sandbox fate tree paths files location kind) (fewer : paths ⊆ morePaths)
    (fewerFiles : files ⊆ moreFiles) : Asks sandbox fate tree morePaths moreFiles location kind := by
  cases asks with
  | directory listed onWay => exact .directory (fewer listed) onWay
  | file listed checked host holds => exact .file (fewerFiles listed) checked host holds

/-- What is asked for is asked for in a grown tree: its paths are resolved as before. -/
theorem Asks.of_grown (asks : Asks sandbox fate tree paths files location kind) (stands : sandbox.Stands tree)
    (grown : Grown tree after) : Asks sandbox fate after paths files location kind := by
  cases asks with
  | directory listed onWay =>
    obtain ⟨path, checked, host, passes⟩ := onWay
    exact .directory listed ⟨path, Sandbox.resolveVirtual_of_hostPath grown stands checked host, host, passes⟩
  | file listed checked host holds =>
    exact .file listed (Sandbox.resolveVirtual_of_hostPath grown stands checked host) host holds

/-- **Seeding has added** what is asked for, and nothing else. -/
def Adds (sandbox : Sandbox) (fate : SeedFile → Option Trouble) (paths : List VirtualPath) (files : List SeedFile)
    (before after : FileTree) : Prop :=
  Gains before after (Asks sandbox fate after paths files)

theorem Adds.refl (tree : FileTree) : Adds sandbox fate paths files tree tree :=
  Gains.refl tree _

theorem Adds.grown (adds : Adds sandbox fate paths files tree after) : Grown tree after :=
  Gains.grown adds fun _ _ => not_asks_link

/-- What two parts of a seed add one after the other, the whole of it adds. -/
theorem Adds.trans {first second third : FileTree} {morePaths : List VirtualPath}
    {moreFiles : List SeedFile} (stands : sandbox.Stands first)
    (one : Adds sandbox fate paths files first second)
    (two : Adds sandbox fate morePaths moreFiles second third) :
    Adds sandbox fate (paths ++ morePaths) (files ++ moreFiles) first third := by
  have standsNow := stands.of_grown one.grown
  refine Gains.trans (Gains.mono one fun location kind asks => ?_) (Gains.mono two fun location kind asks => ?_)
  · exact (asks.of_grown standsNow two.grown).mono (List.subset_append_left _ _) (List.subset_append_left _ _)
  · exact asks.mono (List.subset_append_right _ _) (List.subset_append_right _ _)

/-! ## One step -/

/-- **Making directories adds directories on the way**, also when not all of them can be made. -/
theorem adds_createDirectories {virtual : VirtualPath} {path : Resolved} (stands : sandbox.Stands tree)
    (fits : sandbox.Fits virtual) (checked : sandbox.resolveVirtual tree virtual = .ok path) :
    Adds sandbox fate [virtual] [] tree (path.createDirectories tree).1 := by
  have straight := Sandbox.resolveVirtual_straight stands fits checked
  have gains : Gains tree (path.createDirectories tree).1 _ := .of_makeDirectories straight
  by_cases host : HostPath path.physical
  · have grown := gains.grown fun _ _ isLink => by cases isLink.1
    have again := Sandbox.resolveVirtual_of_hostPath grown stands checked host
    refine gains.mono ?_
    rintro location _ ⟨rfl, passes⟩
    exact .directory (List.mem_singleton_self virtual) ⟨path, again, host, passes⟩
  · have same : (path.createDirectories tree).1 = tree := FileTree.makeDirectories_of_not_hostPath host
    rw [same]
    exact .refl tree

/-- **What writing a file of a seed does.** -/
inductive Writes (sandbox : Sandbox) (fate : SeedFile → Option Trouble) (tree : FileTree) (file : SeedFile) :
    FileTree × Except Failure Bool → Prop where
  /-- Nothing: a path is rejected, or there is something already. -/
  | nothing {outcome : Except Failure Bool} (written : outcome ≠ .ok true) :
      Writes sandbox fate tree file (tree, outcome)
  /-- Directories are made above the file, and then a failure stops it. -/
  | stopped {above : Resolved} {cause : Failure}
      (checked : sandbox.resolveVirtual tree (VirtualPath.parse file.path).parent = .ok above) :
      Writes sandbox fate tree file ((above.createDirectories tree).1, .error cause)
  /-- Directories are made above the file, and then the file is set where nothing is, as far as it arrives. -/
  | written {path above : Resolved} {bytes : Text.Bytes} {outcome : Except Failure Bool}
      (checked : sandbox.resolveVirtual tree (VirtualPath.parse file.path) = .ok path)
      (checkedAbove : sandbox.resolveVirtual tree (VirtualPath.parse file.path).parent = .ok above)
      (opened : (above.createDirectories tree).1.writableLocation path.physical = .ok path.physical)
      (vacant : (above.createDirectories tree).1.at? path.physical = none)
      (holds : Holds (fate file) file bytes) (counted : outcome ≠ .ok false) :
      Writes sandbox fate tree file ((above.createDirectories tree).1.put path.physical (.file bytes), outcome)

/-- A path that fits still does without its last segment. -/
theorem fits_parent {virtual : VirtualPath} (fits : sandbox.Fits virtual) : sandbox.Fits virtual.parent :=
  Nat.lt_of_le_of_lt
    (FileTree.pathBytes_mono ((List.prefix_append_right_inj sandbox.root).mpr (List.dropLast_prefix _))) fits

/-- **Writing a file adds it**, with the directories above it, or fails and adds some of these. -/
theorem Writes.adds {file : SeedFile} {outcome : FileTree × Except Failure Bool}
    (writes : Writes sandbox fate tree file outcome) (stands : sandbox.Stands tree)
    (fits : sandbox.Fits (VirtualPath.parse file.path)) :
    Adds sandbox fate [(VirtualPath.parse file.path).parent] [file] tree outcome.1 := by
  have made {above : Resolved}
      (checked : sandbox.resolveVirtual tree (VirtualPath.parse file.path).parent = .ok above) :
      Adds sandbox fate [(VirtualPath.parse file.path).parent] [] tree (above.createDirectories tree).1 :=
    adds_createDirectories stands (fits_parent fits) checked
  cases writes with
  | nothing => exact .refl tree
  | stopped checked =>
    exact Gains.mono (made checked) fun _ _ asks => asks.mono (List.Subset.refl _) (List.nil_subset _)
  | @written path above bytes outcome checked checkedAbove opened vacant holds counted =>
    have grown := (made checkedAbove).grown
    have standsNow := stands.of_grown grown
    have set := Gains.put_file vacant bytes
    have host : HostPath path.physical := by
      obtain ⟨⟨place, located, -⟩, -⟩ := FileTree.exists_place_of_writable opened
      exact .of_locate located
    have grownOn := set.grown fun _ _ isLink => by cases isLink.2
    have again := Sandbox.resolveVirtual_of_hostPath (grown.trans grownOn) stands checked host
    have adds : Adds sandbox fate [] [file] (above.createDirectories tree).1
        ((above.createDirectories tree).1.put path.physical (.file bytes)) := by
      refine set.mono ?_
      rintro _ _ ⟨rfl, rfl⟩
      exact .file (List.mem_singleton_self file) again host holds
    exact Adds.trans stands (made checkedAbove) adds

end Seed

end ConfinedShell
