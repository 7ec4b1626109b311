import ConfinedShell.Sandbox

/-!
# Seeding

A seed lists directories and files that a scenario starts with. Directories are made with all that is
missing above them; a file is written only where there is nothing yet, so what was edited stays. Seeding
stops at the first failure and keeps what it has made. The storage may give trouble at any of the files: `fate`
tells at which, and then the file that was being written keeps what had arrived.
-/

set_option autoImplicit false

namespace ConfinedShell

/-- A file of a scenario. -/
structure SeedFile where
  path : String
  contents : String := ""
  deriving DecidableEq

/-- **What a scenario starts with.** -/
structure Seed where
  dirs : List String
  files : List SeedFile
  deriving DecidableEq

namespace Seed

/-- A package of the standard scenario, whose contents are made up. -/
def simulatedPackage (name : String) : SeedFile where
  path := "/var/lib/apt/archives/" ++ name
  contents := "Contenido simulado de " ++ name

/-- The standard scenario. -/
def standard : Seed where
  dirs :=
    ["/home/usuario1/Documentos", "/var/lib/apt/archives", "/var/lib/apt/lists", "/var/lib/dpkg",
     "/var/spool/mail"]
  files :=
    [{ path := "/home/usuario1/Documentos/IPS_El_Bohío.txt"
       contents := "# IPs asignadas al Departamento de Ventas - El Bohío\n\n" ++
         "192.168.10.10   pc_ventas_1\n" ++
         "192.168.10.11   pc_ventas_2\n" },
     simulatedPackage "nano_1.0.deb",
     simulatedPackage "htop_1.0.deb"]

/-- Makes directories with all that is missing above them. -/
def makeDirs (sandbox : Sandbox) (tree : FileTree) : List String → FileTree × Except Failure Unit
  | [] => (tree, .ok ())
  | dir :: rest =>
    match sandbox.resolveVirtual tree (VirtualPath.parse dir) with
    | .error cause => (tree, .error cause)
    | .ok path =>
      match path.createDirectories tree with
      | (tree, .error cause) => (tree, .error cause)
      | (tree, .ok ()) => makeDirs sandbox tree rest

/-- Writes a file where there is nothing yet; tells whether it was written. -/
def writeFile (sandbox : Sandbox) (tree : FileTree) (file : SeedFile) (trouble : Option Trouble := none) :
    FileTree × Except Failure Bool :=
  match sandbox.resolveVirtual tree (VirtualPath.parse file.path) with
  | .error cause => (tree, .error cause)
  | .ok path =>
    if path.exists? tree then (tree, .ok false)
    else
      match sandbox.resolveVirtual tree path.virtualPath.parent with
      | .error cause => (tree, .error cause)
      | .ok parent =>
        match parent.createDirectories tree with
        | (tree, .error cause) => (tree, .error cause)
        | (tree, .ok ()) =>
          match path.send trouble (Text.encode file.contents) tree with
          | (tree, .error cause) => (tree, .error cause)
          | (tree, .ok ()) => (tree, .ok true)

/-- Writes the files of which there is nothing yet, and counts them. -/
def writeFiles (sandbox : Sandbox) (tree : FileTree) (files : List SeedFile)
    (fate : SeedFile → Option Trouble := fun _ => none) : FileTree × Except Failure Nat :=
  match files with
  | [] => (tree, .ok 0)
  | file :: rest =>
    match writeFile sandbox tree file (fate file) with
    | (tree, .error cause) => (tree, .error cause)
    | (tree, .ok written) =>
      match writeFiles sandbox tree rest fate with
      | (tree, .error cause) => (tree, .error cause)
      | (tree, .ok count) => (tree, .ok (if written then count + 1 else count))

/-- **Puts a scenario into a sandbox**; the result is the number of files written. -/
def plant (seed : Seed) (sandbox : Sandbox) (tree : FileTree) (fate : SeedFile → Option Trouble := fun _ => none) :
    FileTree × Except Failure Nat :=
  match makeDirs sandbox tree seed.dirs with
  | (tree, .error cause) => (tree, .error cause)
  | (tree, .ok ()) => writeFiles sandbox tree seed.files fate

end Seed

end ConfinedShell
