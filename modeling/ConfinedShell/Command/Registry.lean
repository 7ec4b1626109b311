import ConfinedShell.Command.Files
import ConfinedShell.Command.Network
import ConfinedShell.Command.Shell
import ConfinedShell.Command.System
import ConfinedShell.Command.Texts

/-!
# The registry

A registry holds commands in the order in which they were registered. A name is taken once and for
all: registering it again fails and changes nothing.
-/

set_option autoImplicit false

namespace ConfinedShell

/-- **A registry**: the commands in the order of their registration. -/
structure Registry where
  commands : List Command

namespace Registry

/-- The registry without commands. -/
def empty : Registry :=
  ⟨[]⟩

/-- The command registered under a name. -/
def find? (registry : Registry) (name : String) : Option Command :=
  registry.commands.find? fun command => command.info.name = name

/-- Adds a command, unless its name is taken. -/
def register (registry : Registry) (command : Command) : Except Failure Registry :=
  if (registry.find? command.info.name).isSome then .error (.duplicateCommand command.info.name)
  else .ok ⟨registry.commands ++ [command]⟩

/-- Adds commands one after the other, up to the first whose name is taken. -/
def registerAll (registry : Registry) : List Command → Except Failure Registry
  | [] => .ok registry
  | command :: rest => do (← registry.register command).registerAll rest

/-- What is known of the commands, in order. -/
def infos (registry : Registry) : List CommandInfo :=
  registry.commands.map Command.info

end Registry

namespace Commands

/-- **All commands of the shell**; `suffix` is what the names of known hosts end in. -/
def builtin (suffix : String) : List Command :=
  files ++ [cat, echo] ++ texts ++ [clear, exit] ++ network suffix ++ system ++ [history, help, nano]

end Commands

end ConfinedShell
