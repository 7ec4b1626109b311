import ConfinedShell.Toml.Value

/-!
# Blanks, keys and strings of TOML

A scanner takes a beginning of the characters that are left and gives what it stands for together with
the rest, or fails. The scanners here read the parts that have no parts of their own kind.
-/

set_option autoImplicit false

namespace ConfinedShell.Toml

/-- A scanner: what it has read, and the characters behind it. -/
abbrev Scan (α : Type) := List Char → Option (α × List Char)

/-! ## Blanks, comments and line ends -/

/-- Spaces and tabs part the tokens of a line. -/
def isSpace (c : Char) : Bool :=
  c == ' ' || c == '\t'

/-- Drops spaces and tabs. -/
def skipSpaces (cs : List Char) : List Char :=
  cs.dropWhile isSpace

/-- A character that may stand in a comment: a tab or no control. -/
def isCommentChar (c : Char) : Bool :=
  c == '\t' || (decide (0x20 ≤ c.toNat) && c != '\x7f')

/-- Drops a comment up to the end of its line. -/
def skipComment : List Char → List Char
  | '#' :: rest => rest.dropWhile isCommentChar
  | cs => cs

/-- A line ends with a line feed, with or without a carriage return in front. -/
def lineFeed? : List Char → Option (List Char)
  | '\n' :: rest => some rest
  | '\r' :: '\n' :: rest => some rest
  | _ => none

/-- The rest of a line may hold blanks and a comment, and ends with the line or the document. -/
def lineEnd? (cs : List Char) : Option (List Char) :=
  match skipComment (skipSpaces cs) with
  | [] => some []
  | cs => lineFeed? cs

/-- Drops blanks, line ends and comments. -/
def skipGap (inComment : Bool) : List Char → List Char
  | [] => []
  | '\r' :: '\n' :: rest => skipGap false rest
  | c :: rest =>
    if inComment && isCommentChar c then skipGap true rest
    else if isSpace c || c == '\n' then skipGap false rest
    else if c == '#' then skipGap true rest
    else c :: rest

/-! ## Strings -/

/-- The value of a hexadecimal digit. -/
def hexValue? (c : Char) : Option Nat :=
  if '0' ≤ c ∧ c ≤ '9' then some (c.toNat - '0'.toNat)
  else if 'a' ≤ c ∧ c ≤ 'f' then some (c.toNat - 'a'.toNat + 10)
  else if 'A' ≤ c ∧ c ≤ 'F' then some (c.toNat - 'A'.toNat + 10)
  else none

/-- The number that hexadecimal digits write. -/
def hexNumber? (digits : List Char) : Option Nat :=
  digits.foldl (fun value c => value.bind fun n => (hexValue? c).map fun d => n * 16 + d) (some 0)

/-- The character with the number that hexadecimal digits write. -/
def scalar? (digits : List Char) : Option Char :=
  (hexNumber? digits).bind fun n => if h : n.isValidChar then some (Char.ofNatAux n h) else none

/-- The character that a backslash and a letter stand for. -/
def escaped? : Char → Option Char
  | 'b' => some '\x08'
  | 't' => some '\t'
  | 'n' => some '\n'
  | 'f' => some '\x0c'
  | 'r' => some '\r'
  | '\x22' => some '\x22'
  | '\\' => some '\\'
  | _ => none

/-- A character that stands for itself between double quotes. -/
def isPlainChar (c : Char) : Bool :=
  isCommentChar c && c != '\x22' && c != '\\'

/-- A character that stands for itself between single quotes. -/
def isLiteralChar (c : Char) : Bool :=
  isCommentChar c && c != '\x27'

/-- Puts a character in front of what a scanner has read. -/
def prepend (c : Char) : Option (List Char × List Char) → Option (List Char × List Char) :=
  Option.map fun scanned => (c :: scanned.1, scanned.2)

/-- The rest of a string in double quotes. -/
def basicBody : Scan (List Char)
  | [] => none
  | '\x22' :: rest => some ([], rest)
  | '\\' :: 'u' :: a :: b :: c :: d :: rest =>
    (scalar? [a, b, c, d]).bind fun char => prepend char (basicBody rest)
  | '\\' :: 'U' :: a :: b :: c :: d :: e :: f :: g :: h :: rest =>
    (scalar? [a, b, c, d, e, f, g, h]).bind fun char => prepend char (basicBody rest)
  | '\\' :: letter :: rest => (escaped? letter).bind fun char => prepend char (basicBody rest)
  | c :: rest => if isPlainChar c then prepend c (basicBody rest) else none

/-- The rest of a string in single quotes. -/
def literalBody : Scan (List Char)
  | [] => none
  | '\x27' :: rest => some ([], rest)
  | c :: rest => if isLiteralChar c then prepend c (literalBody rest) else none

/-- What follows three closing quotes: up to two more belong to the string in front of them. -/
def closingQuotes (quote : Char) : List Char → List Char × List Char
  | first :: second :: rest =>
    if first = quote ∧ second = quote then ([quote, quote], rest)
    else if first = quote then ([quote], second :: rest)
    else ([], first :: second :: rest)
  | first :: rest => if first = quote then ([quote], rest) else ([], first :: rest)
  | [] => ([], [])

/-- Whether a backslash at the end of a line has been met: blanks and then a line end follow. -/
def endsLine (cs : List Char) : Bool :=
  (lineFeed? (skipSpaces cs)).isSome

/-- The rest of a string in three double quotes. While `trimming`, which a backslash at the end of a line
begins, blanks and line ends are dropped. -/
def longBasicBody (trimming : Bool) : Scan (List Char)
  | [] => none
  | '\x22' :: '\x22' :: '\x22' :: rest => some (closingQuotes '\x22' rest)
  | '\x22' :: rest => prepend '\x22' (longBasicBody false rest)
  | '\r' :: '\n' :: rest =>
    if trimming then longBasicBody true rest else prepend '\n' (longBasicBody false rest)
  | '\\' :: 'u' :: a :: b :: c :: d :: rest =>
    (scalar? [a, b, c, d]).bind fun char => prepend char (longBasicBody false rest)
  | '\\' :: 'U' :: a :: b :: c :: d :: e :: f :: g :: h :: rest =>
    (scalar? [a, b, c, d, e, f, g, h]).bind fun char => prepend char (longBasicBody false rest)
  | '\\' :: '\r' :: '\n' :: rest => longBasicBody true rest
  | '\\' :: letter :: rest =>
    match escaped? letter with
    | some char => prepend char (longBasicBody false rest)
    | none => if endsLine (letter :: rest) then longBasicBody true rest else none
  | c :: rest =>
    if trimming && (isSpace c || c == '\n') then longBasicBody true rest
    else if isPlainChar c || c == '\n' then prepend c (longBasicBody false rest)
    else none

/-- The rest of a string in three single quotes. -/
def longLiteralBody : Scan (List Char)
  | [] => none
  | '\x27' :: '\x27' :: '\x27' :: rest => some (closingQuotes '\x27' rest)
  | '\r' :: '\n' :: rest => prepend '\n' (longLiteralBody rest)
  | c :: rest => if isCommentChar c || c == '\n' then prepend c (longLiteralBody rest) else none

/-- A line end right behind three opening quotes does not belong to the string. -/
def skipFirstLineEnd (cs : List Char) : List Char :=
  (lineFeed? cs).getD cs

/-- A string on one line. -/
def shortString : Scan String
  | '\x22' :: rest => (basicBody rest).map fun scanned => (String.ofList scanned.1, scanned.2)
  | '\x27' :: rest => (literalBody rest).map fun scanned => (String.ofList scanned.1, scanned.2)
  | _ => none

/-- A string of any of the four kinds. -/
def string : Scan String
  | '\x22' :: '\x22' :: '\x22' :: rest =>
    (longBasicBody false (skipFirstLineEnd rest)).map fun scanned =>
      (String.ofList scanned.1, scanned.2)
  | '\x27' :: '\x27' :: '\x27' :: rest =>
    (longLiteralBody (skipFirstLineEnd rest)).map fun scanned =>
      (String.ofList scanned.1, scanned.2)
  | cs => shortString cs

/-! ## Keys -/

/-- A character of a key without quotes. -/
def isBareChar (c : Char) : Bool :=
  ('0' ≤ c ∧ c ≤ '9') ∨ ('a' ≤ c ∧ c ≤ 'z') ∨ ('A' ≤ c ∧ c ≤ 'Z') ∨ c = '-' ∨ c = '_'

/-- A key without dots. -/
def simpleKey (cs : List Char) : Option (String × List Char) :=
  match cs with
  | '\x22' :: _ => shortString cs
  | '\x27' :: _ => shortString cs
  | _ =>
    let bare := cs.takeWhile isBareChar
    if bare.isEmpty then none else some (String.ofList bare, cs.dropWhile isBareChar)

/-- The parts of a key, which dots separate; at most `room` of them. -/
def keyParts : Nat → Scan (List String)
  | 0, _ => none
  | room + 1, cs =>
    (simpleKey (skipSpaces cs)).bind fun (part, rest) =>
      match skipSpaces rest with
      | '.' :: rest => (keyParts room rest).map fun (parts, rest) => (part :: parts, rest)
      | rest => some ([part], rest)

/-- The most levels of nesting, of keys as well as of values. -/
def nestingLimit : Nat := 79

/-- **A key**: the parts in front of the last dot, and the last one. -/
def key (cs : List Char) : Option ((List String × String) × List Char) :=
  (keyParts nestingLimit cs).bind fun (parts, rest) =>
    parts.getLast?.map fun last => ((parts.dropLast, last), rest)

end ConfinedShell.Toml
