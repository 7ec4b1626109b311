import ConfinedShell.Command.Basic

/-!
# Commands on files and directories

Each of these resolves its operands afresh and hands the checked paths to one operation of the sandbox,
which is the last thing that it does; so a failure leaves the scene as it was, unless `cp` has sent a part of
a file. A destination that is a directory stands for the entry in it that has the name of the source.
-/

set_option autoImplicit false

namespace ConfinedShell.Commands

open ConfinedShell.Action

/-- What is known of `cd`. -/
def cdInfo : CommandInfo where
  name := "cd"
  usage := "cd <path>"
  description := "Change working directory"
  category := "filesystem"

/-- Makes an existing directory the current one. -/
def cd : Command where
  info := cdInfo
  run around arguments := do
    let target ← resolve around (← oneArgument cdInfo arguments)
    let scene ← get
    if target.isDirectory scene.tree then
      set { scene with cwd := target.virtualPath }
      return .text ("current directory: " ++ target.text)
    else
      fail (.command ("directory does not exist: " ++ target.text))

/-- What is known of `ls`. -/
def lsInfo : CommandInfo where
  name := "ls"
  usage := "ls [path]"
  description := "List directory contents"
  category := "filesystem"

/-- The names of a listing: directories first, with a slash, then files. -/
def listedNames (entries : List Entry) : List String :=
  (entries.filter fun entry => entry.kind = .directory).map (·.name ++ "/") ++
    (entries.filter fun entry => entry.kind = .file).map (·.name)

/-- Lists a directory, the current one when none is named. -/
def ls : Command where
  info := lsInfo
  run around arguments := do
    let directory ←
      match arguments with
      | [] => resolve around "."
      | [path] => resolve around path
      | _ => fail lsInfo.usageFailure
    let scene ← get
    match directory.readDirectory around.storage scene.tree with
    | .error cause => fail (.command ("listing error: " ++ cause.message))
    | .ok [] => return .silent
    | .ok entries => return .text (Text.joinWith "   " (listedNames entries))

/-- What is known of `pwd`. -/
def pwdInfo : CommandInfo where
  name := "pwd"
  usage := "pwd"
  description := "Print working directory"
  category := "filesystem"

/-- Shows the current directory. -/
def pwd : Command where
  info := pwdInfo
  run _ _ := do return .text (← get).cwd.text

/-- What is known of `mkdir`. -/
def mkdirInfo : CommandInfo where
  name := "mkdir"
  usage := "mkdir <name>"
  description := "Create a directory"
  category := "filesystem"

/-- Makes a directory. -/
def mkdir : Command where
  info := mkdirInfo
  run around arguments := do
    let path ← resolve around (← oneArgument mkdirInfo arguments)
    change path.createDirectory
    return .text "directory created"

/-- What is known of `rmdir`. -/
def rmdirInfo : CommandInfo where
  name := "rmdir"
  usage := "rmdir <name>"
  description := "Remove an empty directory"
  category := "filesystem"

/-- Removes an empty directory, unless the current directory has its path or a longer one. -/
def rmdir : Command where
  info := rmdirInfo
  run around arguments := do
    let path ← resolve around (← oneArgument rmdirInfo arguments)
    if path.virtualPath.segments.isPrefixOf (← get).cwd.segments then
      fail (.command (path.text ++ ": is the current directory or one of its parents"))
    else
      change path.removeDirectory
      return .text "directory removed"

/-- What is known of `touch`. -/
def touchInfo : CommandInfo where
  name := "touch"
  usage := "touch <name>"
  description := "Create an empty file"
  category := "filesystem"

/-- Makes an empty file. -/
def touch : Command where
  info := touchInfo
  run around arguments := do
    let path ← resolve around (← oneArgument touchInfo arguments)
    change (path.createFile · around.storage.trouble)
    return .text "file created"

/-- What is known of `rm`. -/
def rmInfo : CommandInfo where
  name := "rm"
  usage := "rm <name>"
  description := "Remove a file"
  category := "filesystem"

/-- Removes a file. -/
def rm : Command where
  info := rmInfo
  run around arguments := do
    let path ← resolve around (← oneArgument rmInfo arguments)
    if path.isDirectory (← get).tree then fail (.command (path.text ++ ": is a directory"))
    else
      change path.removeFile
      return .text "file removed"

/-- The place that a copy or a move goes to: in a directory, the entry with the name of the source. -/
def destination (around : Surroundings) (source : Resolved) (input : String) : Action Resolved := do
  let place ← resolve around input
  match source.virtualPath.fileName? with
  | none => return place
  | some name =>
    let scene ← get
    if place.isDirectory scene.tree then
      ofExcept (around.sandbox.resolveVirtual scene.tree (place.virtualPath.child name))
    else
      return place

/-- What is known of `cp`. -/
def cpInfo : CommandInfo where
  name := "cp"
  usage := "cp <src> <dst>"
  description := "Copy a file (overwrites the destination)"
  category := "filesystem"

/-- Copies a file. -/
def cp : Command where
  info := cpInfo
  run around arguments := do
    let (first, second) ← twoArguments cpInfo arguments
    let source ← resolve around first
    if source.isDirectory (← get).tree then fail (.command (source.text ++ ": is a directory"))
    else if !source.isRegular (← get).tree then fail (.notFound source.text)
    else
      let place ← destination around source second
      let _ ← attempt (source.sendTo place around.storage.trouble)
      return .text "copy complete"

/-- What is known of `mv`. -/
def mvInfo : CommandInfo where
  name := "mv"
  usage := "mv <src> <dst>"
  description := "Move or rename a file"
  category := "filesystem"

/-- Moves a file or a directory; moving something onto itself does nothing. -/
def mv : Command where
  info := mvInfo
  run around arguments := do
    let (first, second) ← twoArguments mvInfo arguments
    let source ← resolve around first
    if !source.exists? (← get).tree then fail (.notFound source.text)
    else
      let place ← destination around source second
      if place = source then return .silent
      else
        change (source.moveTo place)
        return .text "move complete"

/-- The commands on files and directories. -/
def files : List Command :=
  [cd, ls, pwd, mkdir, rmdir, touch, rm, cp, mv]

end ConfinedShell.Commands
