import ConfinedShell.Text.Printable

/-!
# Quoted text

The form in which a text is shown inside a message: between double quotes, with a backslash in front
of quotes and backslashes, the short escapes for NUL, tab, line feed and carriage return, and the
number of any other unprintable character in hexadecimal between braces.
-/

set_option autoImplicit false

namespace ConfinedShell.Text

/-- One character of a quoted text. -/
def quoteChar (c : Char) : List Char :=
  if c = '\x00' then ['\\', '0']
  else if c = '\t' then ['\\', 't']
  else if c = '\r' then ['\\', 'r']
  else if c = '\n' then ['\\', 'n']
  else if c = '\x22' ∨ c = '\\' then ['\\', c]
  else if isPrintable c then [c]
  else ['\\', 'u', '\x7b'] ++ Nat.toDigits 16 c.toNat ++ ['\x7d']

/-- A text between double quotes. -/
def quoted (s : String) : String :=
  String.ofList (['\x22'] ++ s.toList.flatMap quoteChar ++ ['\x22'])

end ConfinedShell.Text
