import ConfinedShell.Seed
import ConfinedShell.Text.Blank
import ConfinedShell.Text.Quoted
import ConfinedShell.Toml.Document

/-!
# The configuration

A configuration is read from a TOML document. Every key may be missing and then has its standard value;
keys that mean nothing are passed over; a key with a value of the wrong sort is malformed. The seed may be
a table or a list of its two parts, and so may a file of the seed. What has been read is checked: the root
and the prompt are not empty, and no file of the seed has a blank path.
-/

set_option autoImplicit false

namespace ConfinedShell

/-- **The configuration of a shell.** -/
structure Config where
  sandboxRoot : String := "ubuntu_sim"
  prompt : String := "$ "
  hostSuffix : String := ".com"
  hostname : String := "ubuntu-sim"
  seed : Seed := Seed.standard
  deriving DecidableEq

namespace Config

open Toml (Value Fields)

/-- A text. -/
def textOf? : Value → Option String
  | .string text => some text
  | _ => none

/-- The elements of a list, or the tables that share a header. -/
def elementsOf? : Value → Option (List Value)
  | .array elements => some elements
  | .tables elements => some elements
  | _ => none

/-- The fields of a table. A date counts as a table without any key that means something. -/
def fieldsOf? : Value → Option Fields
  | .table _ fields => some fields
  | .dateTime _ => some []
  | _ => none

/-- Reads the value of a key, or takes `standard` when there is none. -/
def fieldOr {α : Type} (read : Value → Option α) (standard : α) (fields : Fields) (key : String) :
    Option α :=
  match fields.lookup key with
  | none => some standard
  | some value => read value

/-- Reads the element at a place, or takes `standard` when the list is shorter. -/
def elementOr {α : Type} (read : Value → Option α) (standard : α) (elements : List Value)
    (place : Nat) : Option α :=
  match elements[place]? with
  | none => some standard
  | some value => read value

/-- A list of texts. -/
def textsOf? (value : Value) : Option (List String) :=
  (elementsOf? value).bind fun elements => elements.mapM textOf?

/-- A file of the seed: its path, and its contents if it has any. -/
def seedFileOf? (value : Value) : Option SeedFile :=
  match fieldsOf? value, elementsOf? value with
  | some fields, _ => do
    let path ← (fields.lookup "path").bind textOf?
    let contents ← fieldOr textOf? "" fields "contents"
    return { path, contents }
  | none, some elements => do
    let path ← elements.head?.bind textOf?
    let contents ← elementOr textOf? "" elements 1
    return { path, contents }
  | none, none => none

/-- A list of files of the seed. -/
def seedFilesOf? (value : Value) : Option (List SeedFile) :=
  (elementsOf? value).bind fun elements => elements.mapM seedFileOf?

/-- A seed: its directories and its files. -/
def seedOf? (value : Value) : Option Seed :=
  match fieldsOf? value, elementsOf? value with
  | some fields, _ => do
    let dirs ← fieldOr textsOf? Seed.standard.dirs fields "dirs"
    let files ← fieldOr seedFilesOf? Seed.standard.files fields "files"
    return { dirs, files }
  | none, some elements => do
    let dirs ← elementOr textsOf? Seed.standard.dirs elements 0
    let files ← elementOr seedFilesOf? Seed.standard.files elements 1
    return { dirs, files }
  | none, none => none

/-- The configuration that a table describes. -/
def ofFields? (fields : Fields) : Option Config := do
  let standard : Config := {}
  let sandboxRoot ← fieldOr textOf? standard.sandboxRoot fields "sandbox_root"
  let prompt ← fieldOr textOf? standard.prompt fields "prompt"
  let hostSuffix ← fieldOr textOf? standard.hostSuffix fields "host_suffix"
  let hostname ← fieldOr textOf? standard.hostname fields "hostname"
  let seed ← fieldOr seedOf? standard.seed fields "seed"
  return { sandboxRoot, prompt, hostSuffix, hostname, seed }

/-- Checks a configuration: first the root, then the prompt, then the files of the seed in order. -/
def check (config : Config) : Except Failure Config :=
  if config.sandboxRoot = "" then .error (.config "sandbox_root must not be empty")
  else if config.prompt = "" then .error (.config "prompt must not be empty")
  else
    match config.seed.files.find? fun file => Text.trim file.path = "" with
    | some file =>
      .error (.config ("seed file with empty path (contents: " ++ Text.quoted file.contents ++ ")"))
    | none => .ok config

/-- **Reads a configuration.** -/
def ofToml (document : String) : Except Failure Config :=
  match (Toml.parse? document).bind ofFields? with
  | none => .error .malformedConfig
  | some config => config.check

end Config

end ConfinedShell
