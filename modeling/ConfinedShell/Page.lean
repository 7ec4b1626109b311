import ConfinedShell.Host.Error
import ConfinedShell.Text.Utf8

/-!
# Pages

What the terminal and the editor write goes to a writer, piece by piece. A write may break off at any piece, when
some of its bytes have been taken, and what comes of that is up to the one who writes. All that was put so far is a
page.

A piece stands for what is written between two places where it matters whether a write breaks off, and for the flush
that may follow. So a piece can be empty.
-/

set_option autoImplicit false

namespace ConfinedShell

/-- **A piece of what is written**: an entry of the transcript, on a line of its own, or anything else. -/
inductive Written where
  | entry (line : String)
  | other (shown : String)
  deriving DecidableEq

/-- A piece as it is written. -/
def Written.text : Written → String
  | entry line => line ++ "\n"
  | other shown => shown

/-- How a write breaks off: how many bytes were taken before, and why. -/
structure Break where
  taken : Nat
  cause : HostError
  deriving DecidableEq

/-- **A writer**: for the number of a piece, how its write breaks off, if it does. -/
abbrev Writer := Nat → Option Break

/-- A writer that takes everything. -/
def Writer.sound : Writer :=
  fun _ => none

/-- **A page**: the pieces that were put on it, each with how its write broke off, if it did. -/
abbrev Page := List (Written × Option Break)

namespace Page

/-- Puts a piece on a page. -/
def put (writer : Writer) (page : Page) (piece : Written) : Page × Option HostError :=
  let met := writer page.length
  (page ++ [(piece, met)], met.map Break.cause)

/-- Puts pieces on a page until a write breaks off. With each piece comes what is left when it is the one. -/
def putAll {α : Type} (writer : Writer) (page : Page) : List (Written × α) → Page × Option (HostError × α)
  | [] => (page, none)
  | (piece, left) :: rest =>
    match page.put writer piece with
    | (page, none) => page.putAll writer rest
    | (page, some cause) => (page, some (cause, left))

/-- The bytes that were taken of a page. -/
def bytes (page : Page) : Text.Bytes :=
  page.flatMap fun (piece, met) =>
    match met with
    | none => Text.encode piece.text
    | some met => (Text.encode piece.text).take met.taken

end Page

end ConfinedShell
