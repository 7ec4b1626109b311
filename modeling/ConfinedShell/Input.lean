import ConfinedShell.Text.Lines
import ConfinedShell.Text.Utf8

/-!
# Input

Input comes in lines. A line reaches to its line feed, which belongs to it, or to the end of the input.
A line whose bytes are not UTF-8 is received as malformed.
-/

set_option autoImplicit false

namespace ConfinedShell

/-- What one reading of the input gives. -/
inductive Received where
  | line (text : String)
  | malformed
  deriving DecidableEq

namespace Received

/-- The bytes of each line, its line feed included. No line is empty. -/
def splitLines : Text.Bytes → List Text.Bytes
  | [] => []
  | byte :: rest =>
    if byte = 0x0A then [byte] :: splitLines rest
    else
      match splitLines rest with
      | [] => [[byte]]
      | first :: others => (byte :: first) :: others

/-- The lines that the bytes of an input are received as. -/
def ofBytes (bytes : Text.Bytes) : List Received :=
  (splitLines bytes).map fun bytes =>
    match Text.decode? bytes with
    | some text => line (Text.dropLineEnd text)
    | none => malformed

end Received

end ConfinedShell
