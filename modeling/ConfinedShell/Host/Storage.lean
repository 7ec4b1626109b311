import ConfinedShell.Host.Error
import ConfinedShell.Host.FileTree

/-!
# The storage

Some of what the host does with a tree of files is up to the storage that the files are kept on.

* **Order.** The entries of a directory are listed in an order of the storage's own, which is no order of
  their names. Each name has a rank in its directory, and the entries are listed by rank.
* **Trouble.** A file that is written is opened, which makes it or empties it, and then its bytes are sent
  one after the other. The storage may refuse to open the file; and it may fail after some of the bytes,
  because there is no room left or because the machinery fails. What has arrived by then stays.
* **Names that are no text.** They are listed like the others, with the bytes that are no part of a character
  replaced.
-/

set_option autoImplicit false

namespace ConfinedShell

/-- **Trouble** that bytes run into on their way to a file. -/
structure Trouble where
  /-- How many bytes arrive before it. There is no such number when the file is not even opened. -/
  arrived : Option Nat
  error : SystemError
  deriving DecidableEq

/-- **All that is sent arrives**: a file may fail to open, but whatever is sent to an open one gets there. -/
def Delivers (trouble : Option Trouble) : Prop :=
  ∀ met ∈ trouble, met.arrived = none

/-- The bytes that arrive. -/
def arriving (trouble : Option Trouble) (bytes : Text.Bytes) : Text.Bytes :=
  match trouble with
  | none => bytes
  | some trouble => bytes.take (trouble.arrived.getD 0)

/-- **The storage**, as one line finds it. -/
structure Storage where
  /-- What bytes run into that are sent to a file. -/
  trouble : Option Trouble := none
  /-- The rank of a name in the directory at a location. -/
  rank : Location → String → Nat := fun _ _ => 0

/-- The storage as it is for the subtree at a location. -/
def Storage.below (storage : Storage) (root : Location) : Storage :=
  { storage with rank := fun location => storage.rank (root ++ location) }

namespace Entries

/-- Puts an entry in front of the first one of its rank or of a higher one. -/
def rankIn (rank : String → Nat) (entry : String × FileTree) : Entries → Entries
  | [] => [entry]
  | other :: rest =>
    if rank entry.1 ≤ rank other.1 then entry :: other :: rest else other :: rankIn rank entry rest

/-- **Entries by rank**; those of one rank stay as they are. -/
def ranked (rank : String → Nat) : Entries → Entries
  | [] => []
  | entry :: rest => rankIn rank entry (ranked rank rest)

theorem rankIn_perm (rank : String → Nat) (entry : String × FileTree) (entries : Entries) :
    (rankIn rank entry entries).Perm (entry :: entries) := by
  induction entries with
  | nil => exact .refl _
  | cons other rest ih =>
    rw [rankIn]
    split
    · exact .refl _
    · exact (ih.cons other).trans (.swap entry other rest)

/-- What is listed are the entries, each as often as it is there. -/
theorem ranked_perm (rank : String → Nat) (entries : Entries) : (ranked rank entries).Perm entries := by
  induction entries with
  | nil => exact .refl _
  | cons entry rest ih => exact (rankIn_perm rank entry _).trans (ih.cons entry)

theorem mem_ranked {rank : String → Nat} {entries : Entries} {entry : String × FileTree} :
    entry ∈ ranked rank entries ↔ entry ∈ entries :=
  (ranked_perm rank entries).mem_iff

end Entries

/-- The bytes of a name that is spelt with slashes. -/
def nameBytes : List Char → Text.Bytes
  | [] => []
  | ['/'] => [0x2F]
  | '/' :: byte :: rest => UInt8.ofNat byte.toNat :: nameBytes rest
  | c :: rest => String.utf8EncodeChar c ++ nameBytes rest

/-- A name as it is shown: a name that is no text has its malformed stretches replaced. -/
def shownName (name : String) : String :=
  if '/' ∈ name.toList then Text.decodeLossy (nameBytes name.toList) else name

/-- A lone byte that is no text, and one behind a letter. -/
example : shownName "/ÿ" = "\uFFFD" ∧ shownName "a/é" = "a\uFFFD" ∧ shownName "año" = "año" := by decide

end ConfinedShell
