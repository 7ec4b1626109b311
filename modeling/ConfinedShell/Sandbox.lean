import ConfinedShell.Failure
import ConfinedShell.Host.Calls

/-!
# The sandbox

A sandbox is the location of a directory, its **root**, below which all work happens. A virtual path
becomes a physical one in three steps: its segments are appended to the root, the result is resolved
by the host with every link followed, and the location reached has to be the root or lie below it.
A path whose end does not exist yet is resolved as far as it exists, and the rest is appended as it
stands. Only such a checked path (`Resolved`) reaches the host, and every failure is told in terms of
the virtual path.
-/

set_option autoImplicit false

namespace ConfinedShell

/-- A virtual path with the physical one it was checked to mean. -/
structure Resolved where
  virtualPath : VirtualPath
  physical : Location
  deriving DecidableEq

/-- The written form of a checked path is that of its virtual path. -/
def Resolved.text (path : Resolved) : String :=
  path.virtualPath.text

/-- The two sorts of entry in a listing. -/
inductive EntryKind where
  | file
  | directory
  deriving DecidableEq

/-- An entry of a listing. -/
structure Entry where
  name : String
  kind : EntryKind
  deriving DecidableEq

/-- **A sandbox**, given by the location of its root. -/
structure Sandbox where
  root : Location
  deriving DecidableEq

namespace Sandbox

/-- The physical path that the names of `upward`, last name first, and then `tail` lead to: the
longest part of the way that exists is resolved, and what is left is appended. -/
def settle (tree : FileTree) : List String → List String → Except HostError Location
  | [], tail => .ok tail
  | name :: upward, tail =>
    let path := (name :: upward).reverse
    if tree.present path then (tree.realLocation path).map (· ++ tail)
    else settle tree upward (name :: tail)

/-- **Checks a virtual path**: it must lead to the root or below it. -/
def resolveVirtual (sandbox : Sandbox) (tree : FileTree) (path : VirtualPath) :
    Except Failure Resolved :=
  match settle tree (sandbox.root ++ path.segments).reverse [] with
  | .error _ => .error (.pathEscape path.text)
  | .ok physical =>
    if sandbox.root.isPrefixOf physical then .ok ⟨path, physical⟩
    else .error (.pathEscape path.text)

/-- Checks what `input` means in the directory `cwd`. -/
def resolve (sandbox : Sandbox) (tree : FileTree) (cwd : VirtualPath) (input : String) :
    Except Failure Resolved :=
  sandbox.resolveVirtual tree (cwd.join input)

/-- Opens the sandbox whose root is at the end of a path, which is made if it is missing. -/
def openAt (tree : FileTree) (path : Location) : FileTree × Except Failure Sandbox :=
  match tree.makeWrittenDirectories path with
  | (tree, .error e) => (tree, .error (.host e))
  | (tree, .ok ()) =>
    match tree.realLocation path with
    | .error e => (tree, .error (.host e))
    | .ok root => (tree, .ok ⟨root⟩)

end Sandbox

/-! ## Operations on a checked path -/

namespace Resolved

/-- The outcome of a call on the host, told in terms of a virtual path. -/
def told {α : Type} (path : Resolved) : Except HostError α → Except Failure α
  | .ok a => .ok a
  | .error e => .error (.ofHost path.text e)

/-- Whether the path leads to something. -/
def exists? (path : Resolved) (tree : FileTree) : Bool :=
  tree.pathExists path.physical

/-- Whether the path leads to a directory. -/
def isDirectory (path : Resolved) (tree : FileTree) : Bool :=
  tree.pathIsDirectory path.physical

/-- Whether the path leads to a regular file. -/
def isRegular (path : Resolved) (tree : FileTree) : Bool :=
  tree.pathIsRegular path.physical

/-- How an entry is listed: a link counts as what it leads to, and as a file where it leads nowhere. -/
def entryKind (path : Resolved) (tree : FileTree) (name : String) (node : FileTree) : EntryKind :=
  let reached :=
    match tree.stat (path.physical ++ [name]) with
    | .ok target => target
    | .error _ => node
  if reached.isDirectory then .directory else .file

/-- The entries of a directory, in the order of the storage. -/
def readDirectory (path : Resolved) (storage : Storage) (tree : FileTree) : Except Failure (List Entry) :=
  if path.isRegular tree then .error (.notDirectory path.text)
  else
    (path.told (tree.readDirectory path.physical)).map fun entries =>
      (entries.ranked (storage.rank path.physical)).map fun entry =>
        ⟨shownName entry.1, path.entryKind tree entry.1 entry.2⟩

/-- The text of a file; malformed bytes are replaced. -/
def readText (path : Resolved) (tree : FileTree) : Except Failure String :=
  (path.told (tree.readFile path.physical)).map Text.decodeLossy

/-- **Sends bytes to a file**, whose contents they replace, or which is made. -/
def send (path : Resolved) (trouble : Option Trouble) (bytes : Text.Bytes) (tree : FileTree) :
    FileTree × Except Failure Unit :=
  let sent := tree.sendBytes trouble path.physical bytes
  (sent.1, path.told sent.2)

/-- Replaces the contents of a file, or makes the file, when there is no trouble. -/
def write (path : Resolved) (tree : FileTree) (bytes : Text.Bytes) : Except Failure FileTree :=
  let sent := path.send none bytes tree
  sent.2.map fun _ => sent.1

/-- Makes an empty file; a file that is there keeps its contents. -/
def createFile (path : Resolved) (tree : FileTree) (trouble : Option Trouble := none) : Except Failure FileTree :=
  path.told (tree.touchFile path.physical trouble)

/-- Makes an empty directory. -/
def createDirectory (path : Resolved) (tree : FileTree) : Except Failure FileTree :=
  path.told (tree.makeDirectory path.physical)

/-- Makes a directory and every missing one above it. -/
def createDirectories (path : Resolved) (tree : FileTree) : FileTree × Except Failure Unit :=
  let outcome := tree.makeDirectories path.physical
  (outcome.1, path.told outcome.2)

/-- Removes an empty directory, the root never. -/
def removeDirectory (path : Resolved) (tree : FileTree) : Except Failure FileTree :=
  if path.virtualPath.isRoot then .error (.command "cannot remove the root directory")
  else path.told (tree.removeDirectory path.physical)

/-- Removes a file. -/
def removeFile (path : Resolved) (tree : FileTree) : Except Failure FileTree :=
  path.told (tree.removeFile path.physical)

/-- **Copies a file onto another one**; the result holds the number of bytes. -/
def sendTo (source destination : Resolved) (trouble : Option Trouble) (tree : FileTree) :
    FileTree × Except Failure Nat :=
  if source.physical = destination.physical then
    (tree, .error (.command (source.text ++ " and " ++ destination.text ++ " are the same file")))
  else
    let sent := tree.sendFile trouble source.physical destination.physical
    (sent.1, destination.told sent.2)

/-- Copies a file onto another one, when there is no trouble. -/
def copyTo (source destination : Resolved) (tree : FileTree) : Except Failure (Nat × FileTree) :=
  let sent := source.sendTo destination none tree
  sent.2.map fun count => (count, sent.1)

/-- Moves a file or a directory, the root never. -/
def moveTo (source destination : Resolved) (tree : FileTree) : Except Failure FileTree :=
  if source.virtualPath.isRoot then .error (.command "cannot move the root directory")
  else destination.told (tree.rename source.physical destination.physical)

end Resolved

end ConfinedShell
