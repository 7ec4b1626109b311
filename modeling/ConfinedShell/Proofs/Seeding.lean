import ConfinedShell.Proofs.Growth
import ConfinedShell.Seed

/-!
# Seeding twice

A seed is **planted** when each of its directories is one and each of its files leads to something
(`Seed.Planted`). Seeding that succeeds ends so, and in a tree where a seed is planted there is nothing to do:
seeding again writes no file and leaves the tree as it is (`Seed.plant_idempotent`).

Each step lets the tree grow, and so what a step has brought about holds to the end: the paths of a seed may be
repeated, lie in one another or pass links, and each is resolved to the same location after the last step as at its
own.
-/

set_option autoImplicit false

namespace ConfinedShell

open FileTree (Grown)

namespace Seed

variable {sandbox : Sandbox} {tree after : FileTree} {fate : SeedFile → Option Trouble}

/-- A text leads to a directory: it names a path that is resolved to one. -/
def LeadsToDirectory (sandbox : Sandbox) (tree : FileTree) (input : String) : Prop :=
  ∃ path, sandbox.resolveVirtual tree (VirtualPath.parse input) = .ok path ∧ path.isDirectory tree = true

/-- A text leads to something: it names a path that is resolved to a file or a directory. -/
def LeadsToSomething (sandbox : Sandbox) (tree : FileTree) (input : String) : Prop :=
  ∃ path, sandbox.resolveVirtual tree (VirtualPath.parse input) = .ok path ∧ path.exists? tree = true

/-- **A seed is planted** when there is a directory for each that it lists, and something for each file. -/
structure Planted (seed : Seed) (sandbox : Sandbox) (tree : FileTree) : Prop where
  dirs : ∀ dir ∈ seed.dirs, LeadsToDirectory sandbox tree dir
  files : ∀ file ∈ seed.files, LeadsToSomething sandbox tree file.path

/-! ## Growing -/

theorem LeadsToDirectory.of_grown {input : String} (leads : LeadsToDirectory sandbox tree input)
    (stands : sandbox.Stands tree) (grown : Grown tree after) : LeadsToDirectory sandbox after input := by
  obtain ⟨path, checked, isDirectory⟩ := leads
  have isDirectory : path.isDirectory after = true := grown.pathIsDirectory isDirectory
  exact ⟨path, Sandbox.resolveVirtual_of_grown grown stands checked
    (FileTree.pathExists_of_pathIsDirectory isDirectory), isDirectory⟩

theorem LeadsToSomething.of_grown {input : String} (leads : LeadsToSomething sandbox tree input)
    (stands : sandbox.Stands tree) (grown : Grown tree after) : LeadsToSomething sandbox after input := by
  obtain ⟨path, checked, exist⟩ := leads
  have exist : path.exists? after = true := grown.pathExists exist
  exact ⟨path, Sandbox.resolveVirtual_of_grown grown stands checked exist, exist⟩

/-! ## Directories -/

/-- Directories that are made let the tree grow, and the path leads to one then. -/
theorem grown_of_createDirectories {path : Resolved} (stands : sandbox.Stands tree)
    (created : path.createDirectories tree = (after, .ok ())) :
    Grown tree after ∧ path.isDirectory after = true := by
  obtain ⟨rfl, told⟩ := Prod.mk.inj created
  have made : tree.makeDirectories path.physical = ((tree.makeDirectories path.physical).1, .ok ()) :=
    Prod.ext rfl (Resolved.told_eq_ok.mp told)
  exact ⟨.of_makeDirectories, FileTree.pathIsDirectory_of_makeDirectories stands.exists_top made⟩

/-- **Making directories brings each of them about.** -/
theorem makeDirs_ok {dirs : List String} (stands : sandbox.Stands tree)
    (made : makeDirs sandbox tree dirs = (after, .ok ())) :
    Grown tree after ∧ ∀ dir ∈ dirs, LeadsToDirectory sandbox after dir := by
  induction dirs generalizing tree with
  | nil =>
    cases made
    exact ⟨.refl _, nofun⟩
  | cons dir rest ih =>
    rw [makeDirs] at made
    split at made
    · cases made
    next path checked =>
    split at made
    · cases made
    next now created =>
    obtain ⟨grown, isDirectory⟩ := grown_of_createDirectories stands created
    have leads : LeadsToDirectory sandbox now dir :=
      ⟨path, Sandbox.resolveVirtual_of_grown grown stands checked
        (FileTree.pathExists_of_pathIsDirectory isDirectory), isDirectory⟩
    have standsNow := stands.of_grown grown
    obtain ⟨grownOn, leadOn⟩ := ih standsNow made
    exact ⟨grown.trans grownOn, List.forall_mem_cons.mpr ⟨leads.of_grown standsNow grownOn, leadOn⟩⟩

/-- Nothing is made where all directories are there. -/
theorem makeDirs_again {dirs : List String} (lead : ∀ dir ∈ dirs, LeadsToDirectory sandbox tree dir) :
    makeDirs sandbox tree dirs = (tree, .ok ()) := by
  induction dirs with
  | nil => rfl
  | cons dir rest ih =>
    obtain ⟨⟨path, checked, isDirectory⟩, others⟩ := List.forall_mem_cons.mp lead
    have created : path.createDirectories tree = (tree, .ok ()) := by
      rw [Resolved.createDirectories, FileTree.makeDirectories_of_pathIsDirectory isDirectory]
      rfl
    simp only [makeDirs, checked, created]
    exact ih others

/-! ## Files -/

/-- **Writing a file brings it about**, unless something is there already. -/
theorem writeFile_ok {file : SeedFile} {trouble : Option Trouble} {wrote : Bool} (stands : sandbox.Stands tree)
    (written : writeFile sandbox tree file trouble = (after, .ok wrote)) :
    Grown tree after ∧ LeadsToSomething sandbox after file.path := by
  rw [writeFile] at written
  split at written
  · cases written
  next path checked =>
  split at written
  · next exist =>
    cases written
    exact ⟨.refl _, path, checked, exist⟩
  split at written
  · cases written
  next parent _ =>
  split at written
  · cases written
  next now created =>
  split at written
  · cases written
  next put =>
  cases written
  obtain ⟨grown, exist⟩ := FileTree.grown_of_writeFile (Resolved.write_eq_ok.mp (Resolved.write_of_sent put))
  have grown := (grown_of_createDirectories stands created).1.trans grown
  exact ⟨grown, path, Sandbox.resolveVirtual_of_grown grown stands checked exist, exist⟩

/-- Where something is, no file is written. -/
theorem writeFile_again {file : SeedFile} (leads : LeadsToSomething sandbox tree file.path)
    (trouble : Option Trouble) : writeFile sandbox tree file trouble = (tree, .ok false) := by
  obtain ⟨path, checked, exist⟩ := leads
  simp only [writeFile, checked, exist, if_true]

/-- **Writing files brings each of them about.** -/
theorem writeFiles_ok {files : List SeedFile} {count : Nat} (stands : sandbox.Stands tree)
    (written : writeFiles sandbox tree files fate = (after, .ok count)) :
    Grown tree after ∧ ∀ file ∈ files, LeadsToSomething sandbox after file.path := by
  induction files generalizing tree count with
  | nil =>
    cases written
    exact ⟨.refl _, nofun⟩
  | cons file rest ih =>
    rw [writeFiles] at written
    split at written
    · cases written
    next now _ first =>
    split at written
    · cases written
    next others =>
    cases written
    obtain ⟨grown, leads⟩ := writeFile_ok stands first
    have standsNow := stands.of_grown grown
    obtain ⟨grownOn, leadOn⟩ := ih standsNow others
    exact ⟨grown.trans grownOn, List.forall_mem_cons.mpr ⟨leads.of_grown standsNow grownOn, leadOn⟩⟩

/-- Where there is something for each file, none is written. -/
theorem writeFiles_again {files : List SeedFile}
    (lead : ∀ file ∈ files, LeadsToSomething sandbox tree file.path) (fate : SeedFile → Option Trouble) :
    writeFiles sandbox tree files fate = (tree, .ok 0) := by
  induction files with
  | nil => rfl
  | cons file rest ih =>
    obtain ⟨first, others⟩ := List.forall_mem_cons.mp lead
    simp only [writeFiles, writeFile_again first, ih others, Bool.false_eq_true, if_false]

/-! ## Seeds -/

/-- A seed that was planted without a failure is planted. -/
theorem planted_of_plant {seed : Seed} {count : Nat} (stands : sandbox.Stands tree)
    (planted : seed.plant sandbox tree fate = (after, .ok count)) : seed.Planted sandbox after := by
  rw [plant] at planted
  split at planted
  · cases planted
  next now made =>
  obtain ⟨grown, leadDirs⟩ := makeDirs_ok stands made
  have standsNow := stands.of_grown grown
  obtain ⟨grownOn, leadFiles⟩ := writeFiles_ok standsNow planted
  exact ⟨fun dir mem => (leadDirs dir mem).of_grown standsNow grownOn, leadFiles⟩

/-- A seed that is planted is not planted anew. -/
theorem Planted.plant_again {seed : Seed} (planted : seed.Planted sandbox tree) (fate : SeedFile → Option Trouble) :
    seed.plant sandbox tree fate = (tree, .ok 0) := by
  rw [plant, makeDirs_again planted.dirs]
  exact writeFiles_again planted.files fate

/-- **Seeding is idempotent.** After a seeding that succeeds every directory of the seed is one and every file
of it leads to something, and seeding again writes nothing, whatever trouble the storage would give. -/
theorem plant_idempotent {seed : Seed} {count : Nat} (stands : sandbox.Stands tree)
    (planted : seed.plant sandbox tree fate = (after, .ok count)) :
    (∀ dir ∈ seed.dirs, LeadsToDirectory sandbox after dir) ∧
      (∀ file ∈ seed.files, LeadsToSomething sandbox after file.path) ∧
      ∀ fate, seed.plant sandbox after fate = (after, .ok 0) := by
  have settled := planted_of_plant stands planted
  exact ⟨settled.dirs, settled.files, settled.plant_again⟩

/-- An outcome that leaves a tree, as a pair. -/
theorem eq_of_toOption {α : Type} {outcome : FileTree × Except Failure α} {a : α}
    (succeeded : outcome.2.toOption = some a) : outcome = (outcome.1, .ok a) :=
  Prod.ext rfl (ok_of_toOption succeeded)

/-- Paths that pass a link, lead up again, lie in one another and repeat. -/
theorem plant_idempotent_of_links :
    let sandbox : Sandbox := ⟨["root"]⟩
    let tree : FileTree := .directory [("root", .directory
      [("alias", .link "real"), ("later", .link "real/a"), ("real", .directory [])])]
    let seed : Seed :=
      { dirs := ["/alias/a/b", "later/b", "real/../alias//a/b/", "\\up\\..\\..\\top"]
        files := [{ path := "/later/b/note.txt", contents := "one" }, { path := "real/a/b/note.txt" },
          { path := "/new/./file" }, { path := "new" }] }
    let after := (seed.plant sandbox tree).1
    seed.plant sandbox tree = (after, .ok 2) ∧
      (∀ dir ∈ seed.dirs, LeadsToDirectory sandbox after dir) ∧
      (∀ file ∈ seed.files, LeadsToSomething sandbox after file.path) ∧
      seed.plant sandbox after = (after, .ok 0) := by
  intro sandbox tree seed after
  have stands : sandbox.Stands tree := ⟨by simp [sandbox, PlainName], _, rfl⟩
  have counted : (seed.plant sandbox tree).2.toOption = some 2 := by decide +kernel
  have planted := eq_of_toOption counted
  obtain ⟨dirs, files, again⟩ := plant_idempotent stands planted
  exact ⟨planted, dirs, files, again _⟩

end Seed

end ConfinedShell
