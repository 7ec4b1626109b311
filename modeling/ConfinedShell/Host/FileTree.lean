import ConfinedShell.Text.Utf8

/-!
# File trees

The host's files form a tree of **nodes**: a regular file with its bytes, a symbolic link with the
text it holds, or a directory with its entries. A **location** is the list of names that leads from
the top to a node through directories alone; links are not followed on the way. A node has one location:
no file is entered in two directories, or twice in one.

Three operations carry everything else: `at?` looks a location up, `put` sets the entry there and
`remove` drops it. The entries of a directory are a list for the sake of equality alone. An entry that is
new is put where the order of names has it, and nothing depends on that; in which order the host lists a
directory is up to the storage.

A name is a string of bytes, none of which is a slash. Where the bytes are text the name is that text. A byte
that is no part of a character is spelt as a slash and the character with its number, so the byte `0xFF` is
spelt `/ÿ`. No path that is typed and no link leads to a name that is spelt with a slash, since a slash parts
names there.
-/

set_option autoImplicit false

namespace ConfinedShell

/-- **A node of the host's files**, with all that lies below it. -/
inductive FileTree where
  | file (bytes : Text.Bytes)
  | link (target : String)
  | directory (entries : List (String × FileTree))
  deriving Inhabited, BEq

/-- The names that lead to a node from the top. -/
abbrev Location := List String

/-- What a directory holds: names and nodes. -/
abbrev Entries := List (String × FileTree)

namespace Entries

/-- The node called `name`. -/
def find? (name : String) : Entries → Option FileTree
  | [] => none
  | (other, node) :: rest => if other = name then some node else find? name rest

/-- Sets the node called `name`: in the place of the one there, else before the first greater name. -/
def insert (name : String) (node : FileTree) : Entries → Entries
  | [] => [(name, node)]
  | (other, old) :: rest =>
    if other = name then (name, node) :: rest
    else if name < other ∧ (find? name rest).isNone then (name, node) :: (other, old) :: rest
    else (other, old) :: insert name node rest

/-- Drops every node called `name`. -/
def erase (name : String) (entries : Entries) : Entries :=
  entries.filter fun entry => decide (entry.1 ≠ name)

theorem find?_insert_self (name : String) (node : FileTree) (entries : Entries) :
    find? name (insert name node entries) = some node := by
  induction entries with
  | nil => simp [insert, find?]
  | cons entry rest ih =>
    simp only [insert]
    split
    · simp [find?]
    · next h => split <;> simp [find?, h, ih]

theorem find?_insert_of_ne {name other : String} (h : other ≠ name) (node : FileTree)
    (entries : Entries) : find? other (insert name node entries) = find? other entries := by
  induction entries with
  | nil => simp [insert, find?, Ne.symm h]
  | cons entry rest ih =>
    simp only [insert]
    split
    · next he => subst he; simp [find?, Ne.symm h]
    · split
      · simp [find?, Ne.symm h]
      · simp only [find?, ih]

theorem find?_erase_self (name : String) (entries : Entries) :
    find? name (erase name entries) = none := by
  induction entries with
  | nil => rfl
  | cons entry rest ih =>
    by_cases h : entry.1 = name
    · simpa [erase, h] using ih
    · simpa [erase, h, find?] using ih

theorem find?_erase_of_ne {name other : String} (h : other ≠ name) (entries : Entries) :
    find? other (erase name entries) = find? other entries := by
  induction entries with
  | nil => rfl
  | cons entry rest ih =>
    by_cases he : entry.1 = name
    · subst he
      simpa [erase, find?, Ne.symm h] using ih
    · by_cases ho : entry.1 = other
      · subst ho
        simp [erase, he, find?]
      · simpa [erase, he, find?, ho] using ih

end Entries

namespace FileTree

/-- The node at a location. -/
def at? : FileTree → Location → Option FileTree
  | node, [] => some node
  | directory entries, name :: rest => (Entries.find? name entries).bind fun node => node.at? rest
  | _, _ :: _ => none

/-- Sets the node at a location. Nothing changes where the directory that would hold it is missing. -/
def put : FileTree → Location → FileTree → FileTree
  | _, [], new => new
  | directory entries, [name], new => directory (Entries.insert name new entries)
  | directory entries, name :: rest, new =>
    match Entries.find? name entries with
    | some node => directory (Entries.insert name (node.put rest new) entries)
    | none => directory entries
  | node, _ :: _, _ => node

/-- Drops the node at a location with all that lies below it. The top itself stays. -/
def remove : FileTree → Location → FileTree
  | node, [] => node
  | directory entries, [name] => directory (Entries.erase name entries)
  | directory entries, name :: rest =>
    match Entries.find? name entries with
    | some node => directory (Entries.insert name (node.remove rest) entries)
    | none => directory entries
  | node, _ :: _ => node

/-- Whether a node is a directory. -/
def isDirectory : FileTree → Bool
  | directory _ => true
  | _ => false

/-- Whether a node is a regular file. -/
def isRegular : FileTree → Bool
  | file _ => true
  | _ => false

/-- The bytes of the regular file at a location. -/
def bytesAt? (tree : FileTree) (location : Location) : Option Text.Bytes :=
  match tree.at? location with
  | some (file bytes) => some bytes
  | _ => none

/-- What a single node says, without what lies below it. -/
inductive Kind where
  | file (bytes : Text.Bytes)
  | link (target : String)
  | directory
  deriving DecidableEq

/-- The kind of a node. -/
def kind : FileTree → Kind
  | file bytes => .file bytes
  | link target => .link target
  | directory _ => .directory

/-- The kind of the node at a location. -/
def kindAt? (tree : FileTree) (location : Location) : Option Kind :=
  (tree.at? location).map kind

mutual

/-- **All that lies below a node**, at the locations below `base`: each node before what it holds, in
the order of the entries. -/
def listing (base : Location) : FileTree → List (Location × Kind)
  | directory entries => listingEntries base entries
  | _ => []

/-- The listing of entries one after the other. -/
def listingEntries (base : Location) : Entries → List (Location × Kind)
  | [] => []
  | (name, node) :: rest =>
    ((base ++ [name], node.kind) :: listing (base ++ [name]) node) ++ listingEntries base rest

end

end FileTree

end ConfinedShell
