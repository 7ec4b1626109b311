import ConfinedShell.Host.Error
import ConfinedShell.VirtualPath

/-!
# Failures

Everything that can go wrong in the shell, as a cause: what was asked for and what stood in the way.
The wording is in `Failure.message` alone. A failure of the host that says that nothing is there is a
cause of its own, `notFound`; every other one is kept with the path it concerned.
-/

set_option autoImplicit false

namespace ConfinedShell

/-- Why an operation failed. Paths are virtual ones in their written form. -/
inductive Failure where
  /-- Wrong arguments, with the usage text of the command. -/
  | usage (text : String)
  /-- The path leads out of the root, or to nothing that can be named. -/
  | pathEscape (path : String)
  | notFound (path : String)
  | notDirectory (path : String)
  /-- A failure that a command words itself. -/
  | command (message : String)
  /-- A failure of the host at a path. -/
  | storage (path : String) (cause : HostError)
  | unknownCommand (name : String)
  | duplicateCommand (name : String)
  | config (message : String)
  /-- A failure of the host outside the tree that commands work on. -/
  | host (cause : HostError)
  /-- The configuration is not well formed or holds a value of the wrong sort. -/
  | malformedConfig
  deriving DecidableEq, Inhabited

namespace Failure

/-- The words for a failure. -/
def message : Failure → String
  | usage text => "usage: " ++ text
  | pathEscape path => "path escapes sandbox: " ++ path
  | notFound path => path ++ ": no such file or directory"
  | notDirectory path => path ++ ": not a directory"
  | command message => message
  | storage path cause => path ++ ": " ++ cause.message
  | unknownCommand name => "command not recognized: " ++ name
  | duplicateCommand name => "duplicate command registration: " ++ name
  | config message => "config error: " ++ message
  | host cause => "I/O error: " ++ cause.message
  | malformedConfig => "TOML parse error"

/-- The words for a failure and then for what caused it, one after the other. -/
def chain : Failure → List String
  | storage path cause => [message (storage path cause), cause.message]
  | host cause => [message (host cause), cause.message]
  | failure => [failure.message]

/-- The failure that a failed call on the host means for `path`. -/
def ofHost (path : String) : HostError → Failure
  | .system .noEntry => notFound path
  | cause => storage path cause

end Failure

end ConfinedShell
