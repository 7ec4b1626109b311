import ConfinedShell.Host.Error
import ConfinedShell.Host.FileTree

/-!
# Following a path

The host follows a path one component at a time. It stands in a directory; `.` and an empty component
stay there, `..` goes to the directory above, and a name goes to the entry of that name. A link is
replaced by the components of its text, read at the directory that holds the link, or at the top when
the text begins with a slash. At most `linkLimit` links are followed on the way, no name may be longer
than `nameLimit` bytes, and a path is refused as a whole when it holds a NUL or has `pathLimit` bytes
or more.

A path that ends at a name which its last directory lacks leads to a **vacant** place: it can be
created there. The walk is a recursion on the number of links left, and between two links a recursion
on the components.
-/

set_option autoImplicit false

namespace ConfinedShell

/-- The most links that one path may pass. -/
def linkLimit : Nat := 40

/-- The most bytes of a name. -/
def nameLimit : Nat := 255

/-- The bytes of a path, its end mark counted, that are too many. -/
def pathLimit : Nat := 4096

/-- A link's text as the components of a path. -/
def linkParts (target : String) : List String :=
  (target.toList.splitOnP (· == '/')).map String.ofList

/-- Where the text of a link is read from: the top, or the directory that holds the link. -/
def linkBase (directory : Location) (target : String) : Location :=
  if target.toList.head? = some '/' then [] else directory

/-- The written form of a location. -/
def locationText (location : Location) : String :=
  if location.isEmpty then "/" else String.join (location.map ("/" ++ ·))

/-- The bytes of the written form of a location. -/
def pathBytes (path : Location) : Nat :=
  max 1 (path.foldr (fun name rest => 1 + name.utf8ByteSize + rest) 0)

/-- What becomes of a link that is the last component of a path. -/
inductive LastLink where
  /-- The link is followed. -/
  | follow
  /-- The path leads to the link itself. -/
  | keep
  /-- The link is followed, and a file is wanted at the end: no slash may stand behind the last name. -/
  | create
  deriving DecidableEq

/-- Where a path leads: to a node, or to a name that is free in a directory. -/
inductive Place where
  | found (location : Location)
  | vacant (directory : Location) (name : String)
  deriving DecidableEq

/-- How far the components lead before a link has to be followed. -/
inductive Leg where
  | arrived (place : Place)
  | atLink (directory : Location) (target : String) (rest : List String)
  | failed (error : SystemError)

namespace FileTree

/-- Follows components from `here` up to the end or to the first link that has to be followed. -/
def leg (tree : FileTree) (last : LastLink) : Location → List String → Leg
  | here, [] => .arrived (.found here)
  | here, part :: rest =>
    match tree.at? here with
    | none => .failed .noEntry
    | some (file _) => .failed .notDirectory
    | some (link _) => .failed .notDirectory
    | some (directory entries) =>
      if part = "" ∨ part = "." then tree.leg last here rest
      else if part = ".." then tree.leg last here.dropLast rest
      else if last = .create ∧ rest ≠ [] ∧ rest.all String.isEmpty then .failed .isDirectory
      else if nameLimit < part.utf8ByteSize then .failed .nameTooLong
      else
        match Entries.find? part entries with
        | none => if rest.isEmpty then .arrived (.vacant here part) else .failed .noEntry
        | some (link target) =>
          if rest.isEmpty ∧ last = .keep then .arrived (.found (here ++ [part]))
          else .atLink here target rest
        | some (file _) => tree.leg last (here ++ [part]) rest
        | some (directory _) => tree.leg last (here ++ [part]) rest

/-- Follows components from `here`, passing at most `links` links. -/
def walk (tree : FileTree) (last : LastLink) : Nat → Location → List String → Except SystemError Place
  | links, here, parts =>
    match tree.leg last here parts with
    | .arrived place => .ok place
    | .failed error => .error error
    | .atLink holder target rest =>
      match links with
      | 0 => .error .tooManyLinks
      | links + 1 => tree.walk last links (linkBase holder target) (linkParts target ++ rest)

/-- A path can be handed to the host when no name in it holds a NUL. -/
def checkNames (path : Location) : Except HostError Unit :=
  if path.any fun name => name.toList.contains '\x00' then .error .nulInName else .ok ()

/-- A path that the host takes is shorter than `pathLimit`. -/
def checkLength (path : Location) : Except HostError Unit :=
  if pathLimit ≤ pathBytes path then .error (.system .nameTooLong) else .ok ()

/-- **Where a path leads**, read from the top. -/
def locate (tree : FileTree) (last : LastLink) (path : Location) : Except HostError Place := do
  checkNames path
  checkLength path
  (tree.walk last linkLimit [] path).mapError .system

/-- The node at the end of a path, every link followed. -/
def stat (tree : FileTree) (path : Location) : Except HostError FileTree :=
  match tree.locate .follow path with
  | .error e => .error e
  | .ok (.vacant _ _) => .error (.system .noEntry)
  | .ok (.found location) =>
    match tree.at? location with
    | some node => .ok node
    | none => .error (.system .noEntry)

/-- Whether there is a node at the end of a path, a link there being a node itself. -/
def present (tree : FileTree) (path : Location) : Bool :=
  match tree.locate .keep path with
  | .ok (.found _) => true
  | _ => false

/-- The location of the node at the end of a path, every link followed. -/
def realLocation (tree : FileTree) (path : Location) : Except HostError Location :=
  match tree.locate .follow path with
  | .error e => .error e
  | .ok (.vacant _ _) => .error (.system .noEntry)
  | .ok (.found location) =>
    if pathLimit ≤ pathBytes location then .error (.system .nameTooLong) else .ok location

/-- Whether a path leads to something. -/
def pathExists (tree : FileTree) (path : Location) : Bool :=
  (tree.stat path).toOption.isSome

/-- Whether a path leads to a directory. -/
def pathIsDirectory (tree : FileTree) (path : Location) : Bool :=
  (tree.stat path).toOption.any isDirectory

/-- Whether a path leads to a regular file. -/
def pathIsRegular (tree : FileTree) (path : Location) : Bool :=
  (tree.stat path).toOption.any isRegular

end FileTree

end ConfinedShell
