/-!
# TOML values

A document is a table of keys and values. Tables come about in four ways, and the way decides what may
be added to them later: a table with a header of its own takes the lines below that header and, from
other headers, new tables inside it; one that a longer header implies may still get its own header; one
that a dotted key makes takes further dotted keys; and one written between braces takes nothing more.
-/

set_option autoImplicit false

namespace ConfinedShell.Toml

/-- How a table came about. -/
inductive Origin where
  | header
  | implied
  | dotted
  | braces
  deriving DecidableEq

/-- **A value.** Numbers with a fraction and dates are kept as they are written. -/
inductive Value where
  | string (text : String)
  | integer (number : Int)
  | float (written : String)
  | boolean (truth : Bool)
  | dateTime (written : String)
  | array (elements : List Value)
  | table (origin : Origin) (fields : List (String × Value))
  /-- The tables that share a header in double brackets. -/
  | tables (elements : List Value)
  deriving Inhabited

/-- The keys of a table with their values. -/
abbrev Fields := List (String × Value)

namespace Fields

/-- Puts another value under a key that is there. -/
def replace (key : String) (value : Value) (fields : Fields) : Fields :=
  fields.map fun field => if field.1 = key then (key, value) else field

/-- Goes to the table under `key`, making it with origin `fresh` if it is missing, and changes its fields;
of tables that share a header the last one is meant. `admits` tells which tables may be entered. -/
def enter (fields : Fields) (key : String) (fresh : Origin) (admits : Origin → Bool)
    (change : Origin → Fields → Option Fields) : Option Fields :=
  match fields.lookup key with
  | none => (change fresh []).map fun inner => fields ++ [(key, .table fresh inner)]
  | some (.table origin inner) =>
    if admits origin then
      (change origin inner).map fun inner => fields.replace key (.table origin inner)
    else none
  | some (.tables elements) =>
    match elements.getLast? with
    | some (.table origin inner) =>
      (change origin inner).map fun inner =>
        fields.replace key (.tables (elements.dropLast ++ [.table origin inner]))
    | _ => none
  | some _ => none

/-- Gives a new key a value. A table reached through other keys must have been made by dotted keys. -/
def setKey (key : String) (value : Value) (nested : Bool) (origin : Origin) (fields : Fields) :
    Option Fields :=
  if nested ∧ origin ≠ .dotted then none
  else if (fields.lookup key).isSome then none
  else some (fields ++ [(key, value)])

/-- Gives the key at the end of a dotted path a value. -/
def assign (key : String) (value : Value) : Bool → Origin → Fields → List String → Option Fields
  | nested, origin, fields, [] => fields.setKey key value nested origin
  | _, _, fields, step :: path =>
    fields.enter step .dotted (fun origin => origin = .implied ∨ origin = .dotted)
      fun origin inner => assign key value true origin inner path

/-- Goes along the path of a header and changes the fields of the table at its end. -/
def descend (change : Fields → Option Fields) : Fields → List String → Option Fields
  | fields, [] => change fields
  | fields, step :: path =>
    fields.enter step .implied (fun origin => origin ≠ .braces)
      fun _ inner => descend change inner path

/-- Opens the table of a header, which must be new or merely implied, and fills it. -/
def openTable (key : String) (fill : Fields → Option Fields) (fields : Fields) : Option Fields :=
  match fields.lookup key with
  | none => (fill []).map fun inner => fields ++ [(key, .table .header inner)]
  | some (.table .implied inner) =>
    (fill inner).map fun inner => fields.replace key (.table .header inner)
  | some _ => none

/-- Adds a table to those that share a header, and fills it. -/
def addTable (key : String) (fill : Fields → Option Fields) (fields : Fields) : Option Fields :=
  match fields.lookup key with
  | none => (fill []).map fun inner => fields ++ [(key, .tables [.table .header inner])]
  | some (.tables elements) =>
    (fill []).map fun inner => fields.replace key (.tables (elements ++ [.table .header inner]))
  | some _ => none

end Fields

end ConfinedShell.Toml
