import ConfinedShell.Command.Basic

/-!
# Commands on the shell itself

Clearing the screen, leaving, looking back at the lines processed so far, listing the commands, and
handing a file to the editor.
-/

set_option autoImplicit false

namespace ConfinedShell.Commands

open ConfinedShell.Action

/-- Clears the screen. -/
def clear : Command where
  info := { name := "clear", usage := "clear", description := "Clear terminal output" }
  run _ _ := return .clear

/-- Leaves the shell. -/
def exit : Command where
  info := { name := "exit", usage := "exit", description := "Leave the shell" }
  run _ _ := return .exit

/-- Shows the lines processed before this one. -/
def history : Command where
  info :=
    { name := "history"
      usage := "history"
      description := "Show previously executed commands" }
  run around _ := do
    match around.history.dropLast with
    | [] => return .silent
    | previous => return .text (Text.joinWith "\n" previous)

/-- What is known of `help`. -/
def helpInfo : CommandInfo where
  name := "help"
  usage := "help [category]"
  description := "List available commands"

/-- A command in the list of commands: name, usage and description in columns. -/
def helpRow (info : CommandInfo) : String :=
  Text.padRight 10 info.name ++ " " ++ Text.padRight 32 info.usage ++ " " ++ info.description

/-- Lists the commands, of one category when one is named. -/
def help : Command where
  info := helpInfo
  run around arguments := do
    let category ←
      match arguments with
      | [] => pure none
      | [category] => pure (some category)
      | _ => fail helpInfo.usageFailure
    match around.commands.filter fun info => category.all (info.category = ·) with
    | [] => fail (.command ("no commands in category " ++ category.getD ""))
    | listed => return .text (Text.joinWith "\n" (listed.map helpRow))

/-- What is known of `nano`. -/
def nanoInfo : CommandInfo where
  name := "nano"
  usage := "nano <file>"
  description := "Edit a file"
  category := "text"

/-- Hands a file over to the editor. -/
def nano : Command where
  info := nanoInfo
  run around arguments := do
    let path ← resolve around (← oneArgument nanoInfo arguments)
    if path.isDirectory (← get).tree then fail (.command (path.text ++ ": is a directory"))
    else return .edit path

end ConfinedShell.Commands
