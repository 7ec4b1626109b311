import ConfinedShell.Proofs.Making

/-!
# The root survives

A sandbox guards its root by name only: it removes nothing and moves nothing that is called `/`. A link in the
root may lead to the root itself or to a directory above it, so other paths can mean these too. That nothing
happens to them then is due to the host: the root holds the link, so it is not empty, and no directory is moved
into itself or put in the place of one that holds it.

A caller's **requests** are carried out one after the other, each on paths that are resolved at its turn, and
whether one succeeds or not, the next one follows. As long as the paths fit, the root is a directory after each
of them, at the same place and with the same outside (`Sandbox.root_survives`).
-/

set_option autoImplicit false

namespace ConfinedShell

open FileTree (SameOutside)

/-! ## Requests -/

/-- **What a caller may ask of a sandbox**, by virtual paths. -/
inductive Request where
  | write (path : VirtualPath) (bytes : Text.Bytes)
  | createFile (path : VirtualPath)
  | createDirectory (path : VirtualPath)
  /-- A directory with every missing one above it. -/
  | createDirectories (path : VirtualPath)
  | removeDirectory (path : VirtualPath)
  | removeFile (path : VirtualPath)
  | copy (source destination : VirtualPath)
  | move (source destination : VirtualPath)

namespace Request

/-- The paths that a request names. -/
def paths : Request → List VirtualPath
  | .write path _ | .createFile path | .createDirectory path | .createDirectories path => [path]
  | .removeDirectory path | .removeFile path => [path]
  | .copy source destination | .move source destination => [source, destination]

/-- Goes on with what a path is resolved to. A path that is rejected changes nothing. -/
def resolving (sandbox : Sandbox) (tree : FileTree) (path : VirtualPath)
    (next : Resolved → FileTree × Except Failure Unit) : FileTree × Except Failure Unit :=
  match sandbox.resolveVirtual tree path with
  | .error cause => (tree, .error cause)
  | .ok path => next path

/-- Performs an operation. One that fails changes nothing. -/
def operating (tree : FileTree) (operation : Operation) : FileTree × Except Failure Unit :=
  match operation.perform tree with
  | .error cause => (tree, .error cause)
  | .ok after => (after, .ok ())

/-- **Carries a request out**, on paths that are resolved in the files at hand. -/
def perform (sandbox : Sandbox) (tree : FileTree) : Request → FileTree × Except Failure Unit
  | .write path bytes => resolving sandbox tree path fun path => operating tree (.write path bytes)
  | .createFile path => resolving sandbox tree path fun path => operating tree (.createFile path)
  | .createDirectory path => resolving sandbox tree path fun path => operating tree (.createDirectory path)
  | .createDirectories path => resolving sandbox tree path fun path => path.createDirectories tree
  | .removeDirectory path => resolving sandbox tree path fun path => operating tree (.removeDirectory path)
  | .removeFile path => resolving sandbox tree path fun path => operating tree (.removeFile path)
  | .copy source destination =>
    resolving sandbox tree source fun source =>
      resolving sandbox tree destination fun destination => operating tree (.copy source destination)
  | .move source destination =>
    resolving sandbox tree source fun source =>
      resolving sandbox tree destination fun destination => operating tree (.move source destination)

/-- The files after requests, of which each is carried out whatever became of those before. -/
def performAll (sandbox : Sandbox) : FileTree → List Request → FileTree
  | tree, [] => tree
  | tree, request :: rest => performAll sandbox (request.perform sandbox tree).1 rest

/-! ## One request -/

variable {sandbox : Sandbox} {tree : FileTree}

/-- A sandbox keeps everything when a path is resolved and everything is kept by what comes after a good one. -/
theorem resolving_keeps {looked : List VirtualPath} {path : VirtualPath}
    {next : Resolved → FileTree × Except Failure Unit} (stands : sandbox.Stands tree)
    (listed : path ∈ looked)
    (goesOn : ∀ resolved, Checked sandbox looked tree resolved → sandbox.Keeps tree (next resolved).1) :
    sandbox.Keeps tree (resolving sandbox tree path next).1 := by
  rw [resolving]
  split
  · exact .refl stands
  · next resolved good =>
    obtain rfl : resolved.virtualPath = path := (Sandbox.resolveVirtual_ok good).1
    exact goesOn resolved ⟨listed, good⟩

/-- A sandbox keeps everything when an operation on checked paths that fit is tried. -/
theorem operating_keeps {looked : List VirtualPath} {operation : Operation} (stands : sandbox.Stands tree)
    (fits : ∀ path ∈ looked, sandbox.Fits path)
    (checked : ∀ path ∈ operation.paths, Checked sandbox looked tree path) :
    sandbox.Keeps tree (operating tree operation).1 := by
  rw [operating]
  split
  · exact .refl stands
  · next performed => exact operation.keeps stands fits checked performed

/-- A sandbox keeps everything when one path is resolved and an operation is tried on it. -/
theorem keeps_of_one {looked : List VirtualPath} {path : VirtualPath} {operation : Resolved → Operation}
    (stands : sandbox.Stands tree) (fits : ∀ path ∈ looked, sandbox.Fits path) (listed : path ∈ looked)
    (acts : ∀ resolved, (operation resolved).paths = [resolved]) :
    sandbox.Keeps tree (resolving sandbox tree path fun path => operating tree (operation path)).1 := by
  refine resolving_keeps stands listed fun resolved checked => ?_
  refine operating_keeps stands fits fun other mem => ?_
  rw [acts, List.mem_singleton] at mem
  exact mem ▸ checked

/-- A sandbox keeps everything when two paths are resolved and an operation is tried on them. -/
theorem keeps_of_two {looked : List VirtualPath} {source destination : VirtualPath}
    {operation : Resolved → Resolved → Operation} (stands : sandbox.Stands tree)
    (fits : ∀ path ∈ looked, sandbox.Fits path) (fromListed : source ∈ looked)
    (toListed : destination ∈ looked)
    (acts : ∀ source destination, (operation source destination).paths = [source, destination]) :
    sandbox.Keeps tree (resolving sandbox tree source fun source =>
      resolving sandbox tree destination fun destination =>
        operating tree (operation source destination)).1 := by
  refine resolving_keeps stands fromListed fun source fromChecked => ?_
  refine resolving_keeps stands toListed fun destination toChecked => ?_
  refine operating_keeps stands fits fun other mem => ?_
  rw [acts, List.mem_cons, List.mem_singleton] at mem
  rcases mem with rfl | rfl
  · exact fromChecked
  · exact toChecked

/-- **A sandbox keeps everything when a request is carried out**, be it in part or in vain. -/
theorem perform_keeps (stands : sandbox.Stands tree) (request : Request)
    (fits : ∀ path ∈ request.paths, sandbox.Fits path) :
    sandbox.Keeps tree (request.perform sandbox tree).1 := by
  cases request with
  | write path bytes => exact keeps_of_one stands fits List.mem_cons_self fun _ => rfl
  | createFile path => exact keeps_of_one stands fits List.mem_cons_self fun _ => rfl
  | createDirectory path => exact keeps_of_one stands fits List.mem_cons_self fun _ => rfl
  | createDirectories path =>
    have listed : path ∈ (createDirectories path).paths := List.mem_cons_self
    refine resolving_keeps stands listed fun resolved checked => ?_
    have secure := Resolved.secure_of_fits (fits _ checked.listed) stands checked.good
    exact Resolved.createDirectories_keeps stands secure
  | removeDirectory path => exact keeps_of_one stands fits List.mem_cons_self fun _ => rfl
  | removeFile path => exact keeps_of_one stands fits List.mem_cons_self fun _ => rfl
  | copy source destination =>
    exact keeps_of_two stands fits List.mem_cons_self (List.mem_cons_of_mem _ List.mem_cons_self)
      fun _ _ => rfl
  | move source destination =>
    exact keeps_of_two stands fits List.mem_cons_self (List.mem_cons_of_mem _ List.mem_cons_self)
      fun _ _ => rfl

/-! ## One request after the other -/

/-- A sandbox keeps everything over all requests: each one leaves it standing for the next. -/
theorem performAll_keeps (stands : sandbox.Stands tree) (requests : List Request)
    (fits : ∀ request ∈ requests, ∀ path ∈ request.paths, sandbox.Fits path) :
    sandbox.Keeps tree (performAll sandbox tree requests) := by
  induction requests generalizing tree with
  | nil => exact .refl stands
  | cons request rest ih =>
    have first := request.perform_keeps stands (fits request List.mem_cons_self)
    exact first.trans (ih first.stands fun other mem => fits other (List.mem_cons_of_mem _ mem))

end Request

namespace Sandbox

/-- **The root survives** every sequence of requests on paths that fit. However many of them have been carried
out, the root is a directory where it was, and everything outside of it is the same. -/
theorem root_survives {sandbox : Sandbox} {tree : FileTree} {requests : List Request}
    (stands : sandbox.Stands tree)
    (fits : ∀ request ∈ requests, ∀ path ∈ request.paths, sandbox.Fits path) (count : Nat) :
    (Request.performAll sandbox tree (requests.take count)).kindAt? sandbox.root = some .directory ∧
      SameOutside sandbox.root tree (Request.performAll sandbox tree (requests.take count)) := by
  have kept := Request.performAll_keeps stands (requests.take count)
    fun request mem => fits request (List.mem_of_mem_take mem)
  exact ⟨FileTree.kindAt?_eq_directory.mpr kept.stands.isDirectory, kept.outside⟩

/-- A link to the root and one to what holds it: by the former the root is neither removed nor moved nor
replaced, by the latter nothing is reached, and what can be made by them is made. -/
theorem root_survives_links :
    let sandbox : Sandbox := ⟨["top", "root"]⟩
    let tree : FileTree := .directory [("top", .directory [("root", .directory
      [("docs", .directory []), ("here", .link "."), ("up", .link "..")])])]
    let path := VirtualPath.parse
    let requests : List Request :=
      [.removeDirectory (path "here"), .move (path "here") (path "docs/root"), .move (path "docs") (path "here"),
       .removeDirectory (path "up"), .move (path "up") (path "docs/top"), .createDirectories (path "here/a/b"),
       .removeFile (path "here")]
    (∀ count, (Request.performAll sandbox tree (requests.take count)).kindAt? sandbox.root = some .directory ∧
      SameOutside sandbox.root tree (Request.performAll sandbox tree (requests.take count))) ∧
      (Request.performAll sandbox tree requests).listing [] =
        [(["top"], .directory), (["top", "root"], .directory), (["top", "root", "a"], .directory),
         (["top", "root", "a", "b"], .directory), (["top", "root", "docs"], .directory),
         (["top", "root", "here"], .link "."), (["top", "root", "up"], .link "..")] := by
  intro sandbox tree path requests
  have stands : sandbox.Stands tree := ⟨by simp [sandbox, PlainName], _, rfl⟩
  have fits : ∀ request ∈ requests, ∀ path ∈ request.paths, sandbox.Fits path := by decide +kernel
  exact ⟨root_survives stands fits, by decide +kernel⟩

end Sandbox

end ConfinedShell
