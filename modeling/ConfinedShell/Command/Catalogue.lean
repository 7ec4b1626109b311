import ConfinedShell.Command.Registry

/-!
# The catalogue

The program collects its commands in a catalogue: an array of the commands in the order of their registration, and
an index that tells at which place of the array the command of a name stands. A registration changes the two one
after the other. Later the index is read to look a command up, and the array is read to list the commands.

A group of registrations stops at the first that fails, and what was registered before it stays. So a registration is
a computation on a catalogue, which a failure leaves as far as it has been changed.
-/

set_option autoImplicit false

namespace ConfinedShell

/-- **A catalogue** of commands. -/
structure Catalogue where
  /-- The commands in the order of their registration. -/
  commands : Array Command
  /-- The names, each with the place of its command. -/
  index : List (String × Nat)

/-- A computation on a catalogue that may end with a failure. -/
abbrev Registration := EStateM Failure Catalogue

namespace Catalogue

/-- The catalogue without commands. -/
def empty : Catalogue :=
  ⟨#[], []⟩

/-- Adds a command, unless its name is taken. -/
def register (command : Command) : Registration Unit := do
  let name := command.info.name
  if ((← get).index.lookup name).isSome then throw (.duplicateCommand name)
  else
    modify fun catalogue =>
      { catalogue with index := (name, catalogue.commands.size) :: catalogue.index }
    modify fun catalogue => { catalogue with commands := catalogue.commands.push command }

/-- Adds a group of commands one after the other, up to the first whose name is taken. -/
def registerAll : List Command → Registration Unit
  | [] => pure ()
  | command :: rest => do
    register command
    registerAll rest

/-- The command registered under a name. A place behind the end of the array breaks the program down. -/
def find? (catalogue : Catalogue) (name : String) : Except Fault (Option Command) :=
  match catalogue.index.lookup name with
  | none => .ok none
  | some place =>
    match catalogue.commands[place]? with
    | some command => .ok (some command)
    | none =>
      .error (.breakdown (some ("index out of bounds: the len is " ++ Text.decimal catalogue.commands.size ++
        " but the index is " ++ Text.decimal place)))

/-- The registry of the commands that are listed. -/
def registry (catalogue : Catalogue) : Registry :=
  ⟨catalogue.commands.toList⟩

end Catalogue

end ConfinedShell
