/-!
# Columns and numbers

Widths are counted in characters. A text wider than its column is never cut.
-/

set_option autoImplicit false

namespace ConfinedShell.Text

/-- `count` spaces. -/
def spaces (count : Nat) : String :=
  String.ofList (List.replicate count ' ')

/-- A text at the left of a column of `width` characters. -/
def padRight (width : Nat) (s : String) : String :=
  s ++ spaces (width - s.length)

/-- A text at the right of a column of `width` characters. -/
def padLeft (width : Nat) (s : String) : String :=
  spaces (width - s.length) ++ s

/-- A text in the middle of a column of `width` characters; an odd space goes to the right. -/
def center (width : Nat) (s : String) : String :=
  let free := width - s.length
  spaces (free / 2) ++ s ++ spaces (free - free / 2)

/-- The decimal digits of a number. -/
def decimal (n : Nat) : String :=
  String.ofList (Nat.toDigits 10 n)

/-- A number of at least `width` digits, filled with zeros. -/
def zeroFilled (width n : Nat) : String :=
  let digits := Nat.toDigits 10 n
  String.ofList (List.replicate (width - digits.length) '0' ++ digits)

/-- A number with its sign, when that is negative. -/
def signedDecimal (n : Int) : String :=
  match n with
  | .ofNat n => decimal n
  | .negSucc n => "-" ++ decimal (n + 1)

/-- Texts one after the other with `separator` between them. -/
def joinWith (separator : String) : List String → String
  | [] => ""
  | [s] => s
  | s :: rest => s ++ separator ++ joinWith separator rest

/-- Reads a text of at least one decimal digit and nothing else. -/
def digits? (cs : List Char) : Option Nat :=
  if cs.isEmpty then none
  else cs.foldl (fun value c => value.bind fun n =>
    if '0' ≤ c ∧ c ≤ '9' then some (n * 10 + (c.toNat - '0'.toNat)) else none) (some 0)

/-- Two to the power 64: the counts below it fit into a machine word of 64 bits. -/
def countLimit : Nat := 18446744073709551616

/-- Reads a count: decimal digits, with one plus sign in front allowed, below `countLimit`. -/
def count? (s : String) : Option Nat :=
  let body := match s.toList with
    | '+' :: rest => rest
    | cs => cs
  (digits? body).filter fun n => decide (n < countLimit)

example : count? "+007" = some 7 ∧ count? "+" = none ∧ count? "-1" = none := by decide
example : center 20 "May 2026" = "      May 2026      " := by decide

end ConfinedShell.Text
