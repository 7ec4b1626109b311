import ConfinedShell.Host.Storage
import ConfinedShell.Host.Walk

/-!
# Calls on the host

The calls that read and change the tree. Most of them change a single entry, and either fail and leave the
tree alone or succeed at once: a changed tree is then part of a success and of nothing else.

Two sorts of call can fail after they have changed something, and hand over the tree that they leave in any
case. `makeDirectories` is a sequence of calls and may have made some of its directories. `sendBytes` and
`sendFile` send bytes to a file, which has been made or emptied before the storage gives trouble.
-/

set_option autoImplicit false

namespace ConfinedShell.FileTree

/-- The bytes of the file at the end of a path. -/
def readFile (tree : FileTree) (path : Location) : Except HostError Text.Bytes :=
  match tree.stat path with
  | .error e => .error e
  | .ok (file bytes) => .ok bytes
  | .ok _ => .error (.system .isDirectory)

/-- The entries of the directory at the end of a path. -/
def readDirectory (tree : FileTree) (path : Location) : Except HostError Entries :=
  match tree.stat path with
  | .error e => .error e
  | .ok (directory entries) => .ok entries
  | .ok _ => .error (.system .notDirectory)

/-- The location at which a file is opened for writing: that of a file, or a vacant one. -/
def writableLocation (tree : FileTree) (path : Location) : Except HostError Location :=
  match tree.locate .create path with
  | .error e => .error e
  | .ok (.vacant holder name) => .ok (holder ++ [name])
  | .ok (.found location) =>
    match tree.at? location with
    | some (file _) => .ok location
    | _ => .error (.system .isDirectory)

/-- Replaces the bytes of a file, or makes the file. -/
def writeFile (tree : FileTree) (path : Location) (bytes : Text.Bytes) : Except HostError FileTree :=
  (tree.writableLocation path).map fun location => tree.put location (file bytes)

/-- **Sends bytes to a file.** The file is opened, which makes it or empties it, and then the bytes arrive; in
trouble some of them do, or the file is not opened. -/
def sendBytes (tree : FileTree) (trouble : Option Trouble) (path : Location) (bytes : Text.Bytes) :
    FileTree × Except HostError Unit :=
  match tree.writeFile path (arriving trouble bytes), trouble with
  | .error e, _ => (tree, .error e)
  | .ok after, none => (after, .ok ())
  | .ok after, some trouble => (if trouble.arrived.isSome then after else tree, .error (.system trouble.error))

/-- Makes an empty file; a file that is there keeps its bytes. It is opened and closed, and no bytes are sent: all
that the storage can do is to refuse to open it. -/
def touchFile (tree : FileTree) (path : Location) (trouble : Option Trouble := none) : Except HostError FileTree :=
  match tree.writableLocation path, trouble with
  | .error e, _ => .error e
  | .ok _, some ⟨none, e⟩ => .error (.system e)
  | .ok location, _ => .ok (tree.put location (file ((tree.bytesAt? location).getD [])))

/-- Makes an empty directory at a vacant place. -/
def makeDirectory (tree : FileTree) (path : Location) : Except HostError FileTree :=
  match tree.locate .keep path with
  | .error e => .error e
  | .ok (.found _) => .error (.system .fileExists)
  | .ok (.vacant holder name) => .ok (tree.put (holder ++ [name]) (directory []))

/-- Makes a link at a vacant place. -/
def makeLink (tree : FileTree) (path : Location) (target : String) : Except HostError FileTree :=
  match tree.locate .keep path with
  | .error e => .error e
  | .ok (.found _) => .error (.system .fileExists)
  | .ok (.vacant holder name) => .ok (tree.put (holder ++ [name]) (link target))

/-- Makes the directory at a path, where one that is there already does as well. -/
def ensureDirectory (tree : FileTree) (path : Location) : FileTree × Except HostError Unit :=
  match tree.makeDirectory path with
  | .ok tree => (tree, .ok ())
  | .error e => if tree.pathIsDirectory path then (tree, .ok ()) else (tree, .error e)

/-- Ensures the directory at a path. When nothing is there to hold it, `makeHolder` is done first. -/
def ensureAfter (tree : FileTree) (path : Location)
    (makeHolder : Unit → FileTree × Except HostError Unit) : FileTree × Except HostError Unit :=
  match tree.makeDirectory path with
  | .error (.system .noEntry) =>
    match makeHolder () with
    | (tree, .error e) => (tree, .error e)
    | (tree, .ok ()) => tree.ensureDirectory path
  | _ => tree.ensureDirectory path

/-- Makes the directory called by the names of `upward`, last name first, and every missing one above. -/
def makeDirectoriesUp (tree : FileTree) : List String → FileTree × Except HostError Unit
  | [] => (tree, .ok ())
  | name :: upward => tree.ensureAfter (name :: upward).reverse fun _ => tree.makeDirectoriesUp upward

/-- Makes a directory and every missing one above it. A directory that is there is left alone. -/
def makeDirectories (tree : FileTree) (path : Location) : FileTree × Except HostError Unit :=
  tree.makeDirectoriesUp path.reverse

/-- Makes the directories of a path that may end in a dot. A name with a dot behind it is only asked for:
the directories above it are made, but it has to be there. -/
def makeWrittenDirectories (tree : FileTree) (path : Location) : FileTree × Except HostError Unit :=
  if path.getLast? = some "." then
    tree.ensureAfter path fun _ => tree.makeDirectories path.dropLast.dropLast
  else tree.makeDirectories path

/-- Removes an empty directory. A link to one is no directory. -/
def removeDirectory (tree : FileTree) (path : Location) : Except HostError FileTree :=
  match tree.locate .keep path with
  | .error e => .error e
  | .ok (.vacant _ _) => .error (.system .noEntry)
  | .ok (.found location) =>
    if location.isEmpty then .error (.system .busy)
    else
      match tree.at? location with
      | some (directory []) => .ok (tree.remove location)
      | some (directory _) => .error (.system .notEmpty)
      | _ => .error (.system .notDirectory)

/-- Removes a file or a link. -/
def removeFile (tree : FileTree) (path : Location) : Except HostError FileTree :=
  match tree.locate .keep path with
  | .error e => .error e
  | .ok (.vacant _ _) => .error (.system .noEntry)
  | .ok (.found location) =>
    match tree.at? location with
    | some (directory _) => .error (.system .isDirectory)
    | _ => .ok (tree.remove location)

/-- The bytes that a copy sends: those of a regular file. The destination is emptied before the source is
read, so a file that is copied onto itself has none. -/
def copied (tree : FileTree) (source destination : Location) : Except HostError Text.Bytes :=
  match tree.locate .follow source with
  | .error e => .error e
  | .ok (.vacant _ _) => .error (.system .noEntry)
  | .ok (.found origin) =>
    match tree.at? origin with
    | some (file bytes) =>
      (tree.writableLocation destination).map fun location => if location = origin then [] else bytes
    | _ => .error .notRegular

/-- **Copies a file**: sends the bytes of a regular file to another one, and counts them. -/
def sendFile (tree : FileTree) (trouble : Option Trouble) (source destination : Location) :
    FileTree × Except HostError Nat :=
  match tree.copied source destination with
  | .error e => (tree, .error e)
  | .ok bytes =>
    let sent := tree.sendBytes trouble destination bytes
    (sent.1, sent.2.map fun _ => bytes.length)

/-- The directory that a path's last name is looked up in, and that name. -/
def holderOf (tree : FileTree) (path : Location) : Except HostError (Location × Entries × String) := do
  checkLength path
  match path.getLast? with
  | none => .error (.system .busy)
  | some name =>
    match tree.walk .follow linkLimit [] path.dropLast with
    | .error e => .error (.system e)
    | .ok (.vacant _ _) => .error (.system .noEntry)
    | .ok (.found holder) =>
      match tree.at? holder with
      | some (directory entries) => .ok (holder, entries, name)
      | _ => .error (.system .notDirectory)

/-- The entry of a directory that a call names. -/
def lookup (entries : Entries) (name : String) : Except HostError (Option FileTree) :=
  if nameLimit < name.utf8ByteSize then .error (.system .nameTooLong)
  else .ok (Entries.find? name entries)

/-- Whether a node moved onto `old` may take its place. -/
def checkReplace (node : FileTree) (old : FileTree) : Except HostError Unit :=
  match node.isDirectory, old with
  | true, directory [] => .ok ()
  | true, directory _ => .error (.system .notEmpty)
  | true, _ => .error (.system .notDirectory)
  | false, directory _ => .error (.system .isDirectory)
  | false, _ => .ok ()

/-- Moves a node with all that lies below it. A directory cannot move into itself, and a node takes
the place of one of its own sort alone, a directory only that of an empty one. -/
def rename (tree : FileTree) (source destination : Location) : Except HostError FileTree := do
  checkNames source
  checkNames destination
  let (sourceHolder, sourceEntries, sourceName) ← tree.holderOf source
  let (holder, entries, name) ← tree.holderOf destination
  let origin := sourceHolder ++ [sourceName]
  let target := holder ++ [name]
  match ← lookup sourceEntries sourceName with
  | none => .error (.system .noEntry)
  | some node =>
    let old ← lookup entries name
    if origin.isPrefixOf holder then .error (.system .invalidArgument)
    else if target.isPrefixOf sourceHolder then .error (.system .notEmpty)
    else if origin = target then .ok tree
    else
      match old with
      | none => .ok ((tree.remove origin).put target node)
      | some old =>
        checkReplace node old
        .ok ((tree.remove origin).put target node)

end ConfinedShell.FileTree
