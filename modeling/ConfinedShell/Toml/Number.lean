import ConfinedShell.Calendar
import ConfinedShell.Text.Column
import ConfinedShell.Toml.Scan

/-!
# Numbers, dates and times of TOML

Digits may be grouped by single underscores between them. Integers fit into 64 bits with a sign; a number
with a fraction or an exponent must not be too large for a double. Dates must be in the calendar.
-/

set_option autoImplicit false

namespace ConfinedShell.Toml

/-- A decimal digit. -/
def isDigit (c : Char) : Bool :=
  '0' ≤ c ∧ c ≤ '9'

/-- Further digits, each with at most one underscore in front of it. -/
def moreDigits (digit : Char → Bool) : List Char → List Char × List Char
  | [] => ([], [])
  | '_' :: c :: rest =>
    if digit c then
      let (digits, rest) := moreDigits digit rest
      (c :: digits, rest)
    else ([], '_' :: c :: rest)
  | c :: rest =>
    if digit c then
      let (digits, rest) := moreDigits digit rest
      (c :: digits, rest)
    else ([], c :: rest)

/-- At least one digit. -/
def someDigits (digit : Char → Bool) : Scan (List Char)
  | c :: rest =>
    if digit c then
      let (digits, rest) := moreDigits digit rest
      some (c :: digits, rest)
    else none
  | [] => none

/-- A sign, if there is one. -/
def sign : List Char → Bool × List Char
  | '+' :: rest => (false, rest)
  | '-' :: rest => (true, rest)
  | cs => (false, cs)

/-- A decimal integer: a sign and digits, the first of which is no zero unless it is the only one. -/
def decimalInteger (cs : List Char) : Option ((Bool × List Char) × List Char) :=
  let (negative, rest) := sign cs
  match rest with
  | '0' :: rest => some ((negative, ['0']), rest)
  | rest => (someDigits isDigit rest).map fun (digits, rest) => ((negative, digits), rest)

/-- The number that digits write in a base. -/
def digitsNumber (base : Nat) (digits : List Char) : Nat :=
  digits.foldl (fun n c => n * base + (hexValue? c).getD 0) 0

/-- Two to the power 63, which bounds the integers of 64 bits with a sign. -/
def integerLimit : Nat := 9223372036854775808

/-- An integer that fits into 64 bits with a sign. -/
def wordInteger? (negative : Bool) (magnitude : Nat) : Option Value :=
  if negative then if magnitude ≤ integerLimit then some (.integer (-magnitude)) else none
  else if magnitude < integerLimit then some (.integer magnitude) else none

/-- An integer in one of the bases that a mark in front of it names. -/
def basedInteger (base : Nat) (cs : List Char) : Option (Value × List Char) :=
  (someDigits (fun c => (hexValue? c).any (· < base)) cs).bind fun (digits, rest) =>
    (wordInteger? false (digitsNumber base digits)).map fun value => (value, rest)

/-- An integer. -/
def integer : Scan Value
  | '0' :: 'x' :: rest => basedInteger 16 rest
  | '0' :: 'o' :: rest => basedInteger 8 rest
  | '0' :: 'b' :: rest => basedInteger 2 rest
  | cs =>
    (decimalInteger cs).bind fun ((negative, digits), rest) =>
      (wordInteger? negative (digitsNumber 10 digits)).map fun value => (value, rest)

/-- Whether `mantissa` times ten to the power `exponent` rounds to more than the largest double. -/
def isTooLarge (mantissa : Nat) (exponent : Int) : Bool :=
  let limit := Nat.pow 2 1024 - Nat.pow 2 970
  let magnitude := (Nat.toDigits 10 mantissa).length + exponent
  if mantissa = 0 ∨ magnitude < 300 then false
  else if 320 < magnitude then true
  else if 0 ≤ exponent then limit ≤ mantissa * Nat.pow 10 exponent.toNat
  else limit * Nat.pow 10 exponent.natAbs ≤ mantissa

/-- An exponent: the letter, a sign and digits. -/
def exponent : Scan Int
  | c :: rest =>
    if c = 'e' ∨ c = 'E' then
      let (negative, rest) := sign rest
      (someDigits isDigit rest).map fun (digits, rest) =>
        let n : Int := digitsNumber 10 digits
        (if negative then -n else n, rest)
    else none
  | [] => none

/-- A fraction: the point and digits. -/
def fraction : Scan (List Char)
  | '.' :: rest => someDigits isDigit rest
  | _ => none

/-- Infinity and the value that is no number, with or without a sign. -/
def specialFloat (cs : List Char) : Option (Value × List Char) :=
  match (sign cs).2 with
  | 'i' :: 'n' :: 'f' :: rest => some (.float "inf", rest)
  | 'n' :: 'a' :: 'n' :: rest => some (.float "nan", rest)
  | _ => none

/-- A number with a fraction, an exponent or both. -/
def decimalFloat (cs : List Char) : Option (Value × List Char) :=
  (decimalInteger cs).bind fun ((negative, whole), rest) =>
    let parts :=
      match fraction rest with
      | some (digits, rest) =>
        match exponent rest with
        | some (power, rest) => some (digits, power, rest)
        | none => some (digits, 0, rest)
      | none => (exponent rest).map fun (power, rest) => ([], power, rest)
    parts.bind fun (digits, power, after) =>
      if !negative && isTooLarge (digitsNumber 10 (whole ++ digits)) (power - digits.length) then none
      else some (.float (String.ofList (cs.take (cs.length - after.length))), after)

/-- Exactly `count` digits whose number lies between two bounds. -/
def fixedDigits (count low high : Nat) (cs : List Char) : Option (Nat × List Char) :=
  let digits := cs.take count
  let n := digitsNumber 10 digits
  if digits.length = count ∧ digits.all isDigit ∧ low ≤ n ∧ n ≤ high then some (n, cs.drop count)
  else none

/-- One given character. -/
def mark (c : Char) : List Char → Option (List Char)
  | first :: rest => if first = c then some rest else none
  | [] => none

/-- A date: year, month and day. -/
def date (cs : List Char) : Option (List Char) := do
  let (year, cs) ← fixedDigits 4 0 9999 cs
  let cs ← mark '-' cs
  let (month, cs) ← fixedDigits 2 1 12 cs
  let cs ← mark '-' cs
  let (_, cs) ← fixedDigits 2 1 (Calendar.monthLength year month) cs
  return cs

/-- A time: hour, minute, second and perhaps a fraction. -/
def time (cs : List Char) : Option (List Char) := do
  let (_, cs) ← fixedDigits 2 0 23 cs
  let cs ← mark ':' cs
  let (_, cs) ← fixedDigits 2 0 59 cs
  let cs ← mark ':' cs
  let (_, cs) ← fixedDigits 2 0 60 cs
  match cs with
  | '.' :: digits =>
    if digits.head?.any isDigit then return digits.dropWhile isDigit else return cs
  | cs => return cs

/-- The offset of a time: `Z`, or a sign, hours and minutes. -/
def offset (cs : List Char) : Option (List Char) :=
  match cs with
  | [] => none
  | c :: rest =>
    if c = 'Z' ∨ c = 'z' then some rest
    else if c = '+' ∨ c = '-' then do
      let (_, rest) ← fixedDigits 2 0 23 rest
      let rest ← mark ':' rest
      let (_, rest) ← fixedDigits 2 0 59 rest
      return rest
    else none

/-- A time that may follow a date, with the mark between them. -/
def timeOfDate (cs : List Char) : Option (List Char) :=
  match cs with
  | [] => none
  | c :: rest =>
    if c = 'T' ∨ c = 't' ∨ c = ' ' then
      (time rest).map fun rest => (offset rest).getD rest
    else none

/-- A date, a time, or both. -/
def dateTime (cs : List Char) : Option (Value × List Char) :=
  let rest? :=
    match date cs with
    | some rest => some ((timeOfDate rest).getD rest)
    | none => time cs
  rest?.map fun rest => (.dateTime (String.ofList (cs.take (cs.length - rest.length))), rest)

/-- **A number, a date or a time**, whichever is read first in this order. -/
def numeral (cs : List Char) : Option (Value × List Char) :=
  dateTime cs <|> decimalFloat cs <|> specialFloat cs <|> integer cs

end ConfinedShell.Toml
