import ConfinedShell.Toml.Number

/-!
# TOML documents

A document is a list of statements, one a line: a header, or a key and its value. `Document.parse?` reads
the statements and then builds the table that they describe. It fails when a line is not well formed, a
key is given twice, or a table is opened in two ways that exclude each other.
-/

set_option autoImplicit false

namespace ConfinedShell.Toml

/-! ## Values -/

/-- A value without parts. -/
def plainValue (cs : List Char) : Option (Value × List Char) :=
  match cs with
  | '\x22' :: _ => (string cs).map fun (text, rest) => (.string text, rest)
  | '\x27' :: _ => (string cs).map fun (text, rest) => (.string text, rest)
  | 't' :: 'r' :: 'u' :: 'e' :: rest => some (.boolean true, rest)
  | 'f' :: 'a' :: 'l' :: 's' :: 'e' :: rest => some (.boolean false, rest)
  | _ => numeral cs

/-- The rest of an array, at most `room` elements; a comma may stand behind the last. -/
def arrayElements (value : Scan Value) : Nat → Scan (List Value)
  | 0, _ => none
  | room + 1, cs =>
    match skipGap false cs with
    | ']' :: rest => some ([], rest)
    | cs =>
      (value cs).bind fun (element, rest) =>
        match skipGap false rest with
        | ']' :: rest => some ([element], rest)
        | ',' :: rest =>
          (arrayElements value room rest).map fun (elements, rest) => (element :: elements, rest)
        | _ => none

/-- A key, an equals sign and a value. -/
def pair (value : Scan Value) (cs : List Char) :
    Option (((List String × String) × Value) × List Char) :=
  (key cs).bind fun (key, rest) =>
    match rest with
    | '=' :: rest => (value (skipSpaces rest)).map fun (value, rest) => ((key, value), rest)
    | _ => none

/-- The rest of a table between braces, at most `room` further pairs. -/
def bracePairs (value : Scan Value) : Nat → Fields → Scan Fields
  | 0, _, _ => none
  | room + 1, fields, cs =>
    (pair value cs).bind fun (((path, key), value'), rest) =>
      (fields.assign key value' false .braces path).bind fun fields =>
        match skipSpaces rest with
        | '}' :: rest => some (fields, rest)
        | ',' :: rest => bracePairs value room fields rest
        | _ => none

/-- **A value**, with at most `room` levels of arrays and of tables between braces. -/
def value : Nat → Scan Value
  | 0, cs => plainValue cs
  | room + 1, cs =>
    match cs with
    | '[' :: rest =>
      (arrayElements (value room) cs.length rest).map fun (elements, rest) => (.array elements, rest)
    | '\x7b' :: rest =>
      match skipSpaces rest with
      | '\x7d' :: rest => some (.table .braces [], rest)
      | _ =>
        (bracePairs (value room) cs.length [] rest).map fun (fields, rest) =>
          (.table .braces fields, rest)
    | _ => plainValue cs

/-! ## Statements -/

/-- A line of a document. -/
inductive Statement where
  | table (path : List String) (key : String)
  | tables (path : List String) (key : String)
  | assignment (path : List String) (key : String) (value : Value)

/-- A line with a statement. -/
def statement (cs : List Char) : Option (Statement × List Char) :=
  match cs with
  | '[' :: '[' :: rest =>
    (key rest).bind fun ((path, key), rest) =>
      match rest with
      | ']' :: ']' :: rest => (lineEnd? rest).map fun rest => (.tables path key, rest)
      | _ => none
  | '[' :: rest =>
    (key rest).bind fun ((path, key), rest) =>
      match rest with
      | ']' :: rest => (lineEnd? rest).map fun rest => (.table path key, rest)
      | _ => none
  | _ =>
    (pair (value nestingLimit) cs).bind fun (((path, key), value), rest) =>
      (lineEnd? rest).map fun rest => (.assignment path key value, rest)

/-- The statements of at most `room` lines. -/
def statements : Nat → List Char → Option (List Statement)
  | 0, _ => some []
  | room + 1, cs =>
    match skipSpaces cs with
    | [] => some []
    | '#' :: rest => (lineEnd? ('#' :: rest)).bind (statements room)
    | '\n' :: rest => statements room rest
    | '\r' :: rest => (lineFeed? ('\r' :: rest)).bind (statements room)
    | cs =>
      (statement cs).bind fun (first, rest) => (statements room rest).map (first :: ·)

/-! ## The table of a document -/

/-- The assignments in front of the next header, and what follows them. -/
def section? : List Statement → (Fields → Option Fields) × List Statement
  | .assignment path key value :: rest =>
    let (fill, rest) := section? rest
    (fun fields => (fields.assign key value false .header path).bind fill, rest)
  | rest => (some, rest)

/-- Carries out headers with the assignments below them. -/
def carryOut : Nat → Fields → List Statement → Option Fields
  | 0, fields, _ => some fields
  | room + 1, fields, statements =>
    match statements with
    | [] => some fields
    | .assignment path key value :: rest =>
      (fields.assign key value false .header path).bind fun fields => carryOut room fields rest
    | .table path key :: rest =>
      let (fill, rest) := section? rest
      (fields.descend (Fields.openTable key fill) path).bind fun fields => carryOut room fields rest
    | .tables path key :: rest =>
      let (fill, rest) := section? rest
      (fields.descend (Fields.addTable key fill) path).bind fun fields => carryOut room fields rest

/-- **The table that a document describes.** A byte order mark in front is skipped. -/
def parse? (document : String) : Option Fields :=
  let cs :=
    match document.toList with
    | '\uFEFF' :: rest => rest
    | cs => cs
  (statements (cs.length + 1) cs).bind fun statements =>
    carryOut (statements.length + 1) [] statements

end ConfinedShell.Toml
