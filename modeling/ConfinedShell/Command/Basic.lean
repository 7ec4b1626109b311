import ConfinedShell.Calendar
import ConfinedShell.Sandbox
import ConfinedShell.Schedule

/-!
# Commands

A line is the name of a command and its arguments, parted by blanks; there is no quoting. A command
acts on a **scene**, the files and the current directory, and may read its surroundings. It ends with an
output or with a fault, and keeps what it has changed in either case. An output is a value that tells
the session what to do: show text, clear the screen, leave, open an editor or deliver lines later.
-/

set_option autoImplicit false

namespace ConfinedShell

/-- Parts a line into the name of a command and its arguments; a blank line has none. -/
def tokenize (line : String) : Option (String × List String) :=
  match Text.words line with
  | [] => none
  | name :: arguments => some (name, arguments)

/-- What a command hands to the session. -/
inductive Output where
  /-- Text, of which each row becomes a line. -/
  | text (text : String)
  /-- Lines as they are. -/
  | lines (lines : List String)
  | silent
  | clear
  | exit
  /-- A file that an editor is to be opened on. -/
  | edit (path : Resolved)
  /-- Text to show at once, and lines that follow later. -/
  | scheduled (text : String) (later : List DelayedLine)

/-- Whether doing what an output says breaks down: a line is to follow at a moment that there is not. -/
def Output.breaksDown (now : Moment) : Output → Bool
  | .scheduled _ later => !later.all (·.hasMoment now)
  | _ => false

/-- What a command acts on: the files of the host and the current directory. -/
structure Scene where
  tree : FileTree
  cwd : VirtualPath

/-- How a command ends when it does not end with an output. -/
inductive Fault where
  | failure (cause : Failure)
  /-- The command broke down; the message is missing when it left none that can be shown. -/
  | breakdown (message : Option String)
  deriving DecidableEq

/-- The failure that a fault is reported as. -/
def Fault.toFailure : Fault → Failure
  | failure cause => cause
  | breakdown message => .command (message.getD "command panicked")

/-- The time of day and the time since the start, at each moment, and what is known of dates. -/
structure Clock where
  date : Moment → Calendar.DateTime
  /-- Whole seconds since the start. -/
  uptime : Moment → Nat
  dates : Calendar.Dates := .gregorian

/-- A clock that stands still. -/
def Clock.fixed (date : Calendar.DateTime) (uptime : Nat) : Clock where
  date _ := date
  uptime _ := uptime

/-- What is known of a command without running it. -/
structure CommandInfo where
  name : String
  usage : String
  description : String
  category : String := "general"
  deriving DecidableEq

/-- What a command may read. -/
structure Surroundings where
  sandbox : Sandbox
  /-- The commands there are, in the order of their registration. -/
  commands : List CommandInfo
  /-- The lines processed so far, the current one last. -/
  history : List String
  clock : Clock
  now : Moment
  storage : Storage

/-- A computation on a scene that may end with a fault. -/
abbrev Action := EStateM Fault Scene

/-- **A command**: what is known of it, and what it does with its arguments. -/
structure Command where
  info : CommandInfo
  run : Surroundings → List String → Action Output

namespace CommandInfo

/-- The failure of a command that was called with the wrong arguments. -/
def usageFailure (info : CommandInfo) : Failure :=
  .usage info.usage

end CommandInfo

namespace Action

/-- Ends with a failure. -/
def fail {α : Type} (cause : Failure) : Action α :=
  throw (.failure cause)

/-- Goes on with a value, or ends with the failure in its place. -/
def ofExcept {α : Type} : Except Failure α → Action α
  | .ok a => pure a
  | .error cause => fail cause

/-- The one argument of a command. -/
def oneArgument (info : CommandInfo) : List String → Action String
  | [argument] => pure argument
  | _ => fail info.usageFailure

/-- The two arguments of a command. -/
def twoArguments (info : CommandInfo) : List String → Action (String × String)
  | [first, second] => pure (first, second)
  | _ => fail info.usageFailure

/-- Checks what `input` means in the current directory. -/
def resolve (around : Surroundings) (input : String) : Action Resolved := do
  let scene ← get
  ofExcept (around.sandbox.resolve scene.tree scene.cwd input)

/-- Asks the files a question that may fail. -/
def query {α : Type} (question : FileTree → Except Failure α) : Action α := do
  let scene ← get
  ofExcept (question scene.tree)

/-- Changes the files, as a whole or not at all. -/
def change (operation : FileTree → Except Failure FileTree) : Action Unit := do
  let scene ← get
  let tree ← ofExcept (operation scene.tree)
  set { scene with tree }

/-- Changes the files, and keeps what has changed when the change fails. -/
def attempt {α : Type} (operation : FileTree → FileTree × Except Failure α) : Action α := do
  let scene ← get
  let (tree, outcome) := operation scene.tree
  set { scene with tree }
  ofExcept outcome

end Action

end ConfinedShell
