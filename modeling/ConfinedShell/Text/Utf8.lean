/-!
# UTF-8

Text is written one character after the other, each in one to four bytes. Reading is a machine that
takes one byte at a time and stands either between two characters or inside one, where it knows how
many bytes are to come and between which bounds the next one has to lie. The bounds of the second
byte depend on the first: they keep out overlong forms, surrogates and numbers above `0x10FFFF`.

A byte that does not fit ends a malformed stretch and is then read anew. The strict reader refuses
such a text; the lossy one puts the replacement character in place of each malformed stretch.
-/

set_option autoImplicit false

namespace ConfinedShell.Text

/-- The bytes of a file. -/
abbrev Bytes := List UInt8

/-- The bytes of a text. -/
def encode (s : String) : Bytes :=
  s.toList.flatMap String.utf8EncodeChar

/-- Where a reader stands: between two characters, or inside one of which `value` holds the bits read
so far, after whose next byte (between `low` and `high`) `more` others follow. -/
inductive Reader where
  | between
  | inside (value more low high : Nat)

namespace Reader

/-- A byte that begins a character: what it completes, and where the reader stands after it. -/
def enter (byte : UInt8) : List (Option Char) × Reader :=
  let b := byte.toNat
  if b < 0x80 then ([some (Char.ofNat b)], .between)
  else if 0xC2 ≤ b ∧ b ≤ 0xDF then ([], .inside (b - 0xC0) 0 0x80 0xBF)
  else if b = 0xE0 then ([], .inside (b - 0xE0) 1 0xA0 0xBF)
  else if b = 0xED then ([], .inside (b - 0xE0) 1 0x80 0x9F)
  else if 0xE1 ≤ b ∧ b ≤ 0xEF then ([], .inside (b - 0xE0) 1 0x80 0xBF)
  else if b = 0xF0 then ([], .inside (b - 0xF0) 2 0x90 0xBF)
  else if 0xF1 ≤ b ∧ b ≤ 0xF3 then ([], .inside (b - 0xF0) 2 0x80 0xBF)
  else if b = 0xF4 then ([], .inside (b - 0xF0) 2 0x80 0x8F)
  else ([none], .between)

/-- One byte: the characters it completes (`none` for a malformed stretch) and the reader after it. -/
def step : Reader → UInt8 → List (Option Char) × Reader
  | .between, byte => enter byte
  | .inside value more low high, byte =>
    if low ≤ byte.toNat ∧ byte.toNat ≤ high then
      let value := value * 64 + (byte.toNat - 0x80)
      match more with
      | 0 => ([some (Char.ofNat value)], .between)
      | more + 1 => ([], .inside value more 0x80 0xBF)
    else (none :: (enter byte).1, (enter byte).2)

/-- Reads all bytes; a character cut short by the end is one malformed stretch. -/
def run : Reader → Bytes → List (Option Char)
  | .between, [] => []
  | .inside .., [] => [none]
  | reader, byte :: bytes => (reader.step byte).1 ++ run (reader.step byte).2 bytes

end Reader

/-- The character that stands for a malformed stretch. -/
def replacement : Char := '\uFFFD'

/-- The text of any bytes, with the replacement character for each malformed stretch. -/
def decodeLossy (bytes : Bytes) : String :=
  String.ofList ((Reader.between.run bytes).map fun c => c.getD replacement)

/-- The text of well-formed bytes. -/
def decode? (bytes : Bytes) : Option String :=
  ((Reader.between.run bytes).mapM id).map String.ofList

example : decode? (encode "aé日😀") = some "aé日😀" := by decide
example : decodeLossy [0x61, 0xF0, 0x9F, 0x98, 0x61, 0xE0, 0x80, 0xFF] = "a\uFFFDa\uFFFD\uFFFD\uFFFD" := by
  decide

end ConfinedShell.Text
