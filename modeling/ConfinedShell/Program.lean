import ConfinedShell.Command.Catalogue
import ConfinedShell.Config
import ConfinedShell.Terminal

/-!
# The program

From its arguments and its environment the program takes a configuration, opens the sandbox, seeds it
unless it is told not to, and runs a terminal over its input. The root of the sandbox is the one named by
an argument, else the one in the environment, else the configured one. The program ends with code 0, with
1 when something failed, with 2 when it does not understand its arguments, and with 101 when it broke down.
-/

set_option autoImplicit false

namespace ConfinedShell

/-- What the arguments ask for. -/
structure Options where
  root : Option String := none
  config : Option String := none
  noSeed : Bool := false
  deriving DecidableEq

namespace Options

/-- What to do with the arguments: run, tell about the program, or refuse them. -/
inductive Request where
  | run (options : Options)
  | help
  | version
  | refused
  deriving DecidableEq

/-- The value of an option: the text behind its equals sign, else the next argument unless that looks
like an option. No value is empty. -/
def valueOf? (attached : Option String) (rest : List String) : Option (String × List String) :=
  match attached, rest with
  | some value, rest => if value = "" then none else some (value, rest)
  | none, value :: rest =>
    if value = "" ∨ (value.toList.head? = some '-' ∧ value ≠ "-") then none else some (value, rest)
  | none, [] => none

/-- Parts an argument at its first equals sign. -/
def splitValue (argument : List Char) : String × Option String :=
  let name := argument.takeWhile (· ≠ '=')
  (String.ofList name,
    match argument.dropWhile (· ≠ '=') with
    | _ :: value => some (String.ofList value)
    | [] => none)

/-- Reads arguments from the left, at most `room` of them. An option may be given once. -/
def readFrom (options : Options) : Nat → List String → Request
  | 0, _ => .run options
  | _, [] => .run options
  | room + 1, argument :: rest =>
    match argument.toList with
    | '-' :: '-' :: [] => if rest.isEmpty then .run options else .refused
    | '-' :: '-' :: long =>
      match splitValue long with
      | ("root", attached) =>
        match valueOf? attached rest with
        | some (value, rest) =>
          if options.root.isSome then .refused
          else readFrom { options with root := some value } room rest
        | none => .refused
      | ("config", attached) =>
        match valueOf? attached rest with
        | some (value, rest) =>
          if options.config.isSome then .refused
          else readFrom { options with config := some value } room rest
        | none => .refused
      | ("no-seed", none) =>
        if options.noSeed then .refused else readFrom { options with noSeed := true } room rest
      | ("help", none) => .help
      | ("version", none) => .version
      | _ => .refused
    | '-' :: 'h' :: _ => .help
    | '-' :: 'V' :: _ => .version
    | _ => .refused

/-- **Reads the arguments.** -/
def read (arguments : List String) : Request :=
  readFrom {} arguments.length arguments

end Options

namespace Program

/-- The name of the program and its version. -/
def versionText : String := "sandshell 0.1.0\n"

/-- What the program tells about its arguments. -/
def helpText : String :=
  "Sandboxed Unix-like shell emulator\n\n" ++
  "Usage: sandshell [OPTIONS]\n\n" ++
  "Options:\n" ++
  "      --root <ROOT>      Sandbox root directory (default from config, or ./ubuntu_sim)\n" ++
  "      --config <CONFIG>  TOML configuration file\n" ++
  "      --no-seed          Skip creating the scenario directories and files\n" ++
  "  -h, --help             Print help\n" ++
  "  -V, --version          Print version\n"

/-- What the program finds when it starts. -/
structure Host where
  tree : FileTree
  /-- The directory that relative paths start in. -/
  directory : Location
  /-- The root that the environment names. -/
  environmentRoot : Option String
  clock : Clock
  now : Moment
  /-- The milliseconds by which the time runs on, each time that it does. -/
  lags : Nat → Nat := fun _ => 0
  /-- What becomes of the bytes that are sent to a file of the scenario. -/
  fate : SeedFile → Option Trouble := fun _ => none
  /-- The storage, as each line of the session finds it. -/
  storage : Nat → Storage := fun _ => {}
  /-- Where the terminal writes to. -/
  writer : Writer := Writer.sound

/-- A path as the host reads it: from the top when it begins with a slash, else from `directory`. -/
def hostPath (directory : Location) (path : String) : Except HostError Location :=
  if path = "" then .error (.system .noEntry)
  else .ok (linkBase directory path ++ linkParts path)

/-- A path without the components that stay where they are. Only a dot at its end is kept, which asks for
a directory in front of it. -/
def cleanPath (path : Location) : Location :=
  let names := path.filter fun part => part ≠ "" ∧ part ≠ "."
  if (path.filter (· ≠ "")).getLast? = some "." then names ++ ["."] else names

/-- Reads the configuration in a file. -/
def loadConfig (host : Host) (path : String) : Except Failure Config :=
  match (hostPath host.directory path).bind host.tree.readFile with
  | .error cause => .error (.host cause)
  | .ok bytes =>
    match Text.decode? bytes with
    | none => .error (.host .notText)
    | some document => Config.ofToml document

/-- The configuration that the options and the environment lead to. -/
def configure (host : Host) (options : Options) : Except Failure Config := do
  let config ←
    match options.config with
    | some path => loadConfig host path
    | none => .ok {}
  match options.root <|> host.environmentRoot with
  | some root => return { config with sandboxRoot := root }
  | none => return config

/-- Opens the sandbox of a configuration, seeds it and starts a terminal. -/
def prepare (host : Host) (options : Options) (config : Config) :
    FileTree × Except Failure Terminal :=
  match hostPath host.directory config.sandboxRoot with
  | .error cause => (host.tree, .error (.host cause))
  | .ok path =>
    match Sandbox.openAt host.tree (cleanPath path) with
    | (tree, .error cause) => (tree, .error cause)
    | (tree, .ok sandbox) =>
      let (tree, seeded) := if options.noSeed then (tree, .ok 0) else config.seed.plant sandbox tree host.fate
      match seeded, Catalogue.registerAll (Commands.builtin config.hostSuffix) Catalogue.empty with
      | .error cause, _ => (tree, .error cause)
      | _, .error cause _ => (tree, .error cause)
      | .ok _, .ok _ catalogue =>
        let session := Session.start catalogue.registry sandbox host.clock tree Listener.start host.storage
        (tree, .ok (Terminal.start session config.hostname config.prompt host.now host.lags))

/-- What a run of the program leaves. -/
structure Outcome where
  code : Nat
  /-- What the program wrote. -/
  written : Text.Bytes
  /-- What it had to complain of. -/
  complaint : Option String
  tree : FileTree

/-- What the arguments lead to before any input is read. -/
inductive Opening where
  | ended (outcome : Outcome)
  | ready (terminal : Terminal)

/-- Starts the program: it ends at once or waits for input. -/
def start (host : Host) (arguments : List String) : Opening :=
  match Options.read arguments with
  | .refused => .ended ⟨2, [], some helpText, host.tree⟩
  | .help => .ended ⟨0, Text.encode helpText, none, host.tree⟩
  | .version => .ended ⟨0, Text.encode versionText, none, host.tree⟩
  | .run options =>
    match configure host options with
    | .error cause => .ended ⟨1, [], some cause.message, host.tree⟩
    | .ok config =>
      match prepare host options config with
      | (tree, .error cause) => .ended ⟨1, [], some cause.message, tree⟩
      | (_, .ok terminal) => .ready terminal

/-- The code that the program ends with when a run was stopped. -/
def stopCode : Stop → Nat
  | .reading _ | .writing _ => 1
  | .breakdown => 101

/-- What a run of the terminal comes to. -/
def conclude (after : Terminal.Sitting) : Outcome :=
  let tree := after.terminal.session.scene.tree
  match after.failure with
  | some stop => ⟨stopCode stop, after.page.bytes, some stop.message, tree⟩
  | none => ⟨0, after.page.bytes, none, tree⟩

/-- **Runs the program** on all of its input. -/
def run (host : Host) (arguments : List String) (input : Text.Bytes) : Outcome :=
  match start host arguments with
  | .ended outcome => outcome
  | .ready terminal => conclude (terminal.runOn host.writer [] (Received.ofBytes input))

end Program

end ConfinedShell
