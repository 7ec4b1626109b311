import ConfinedShell.Command.Basic
import ConfinedShell.Hosts

/-!
# Commands on the network

Nothing leaves the machine. Whether a host is known depends on its name alone, and what it answers is
made up.
-/

set_option autoImplicit false

namespace ConfinedShell.Commands

open ConfinedShell.Action

/-- What is known of `ping`. -/
def pingInfo : CommandInfo where
  name := "ping"
  usage := "ping <host>"
  description := "Send echo requests to a host"
  category := "network"

/-- The number of requests sent. -/
def pingCount : Nat := 4

/-- The milliseconds between two requests. -/
def pingInterval : Nat := 200

/-- What follows the first reply: the other replies, each an interval later, and the summary. -/
def pingReplies (host : String) : List DelayedLine :=
  ((List.range (pingCount - 1)).map fun i => ⟨pingInterval * (i + 1), Hosts.replyLine host (i + 2)⟩) ++
    [⟨pingInterval * pingCount, "--- " ++ host ++ " ping statistics ---"⟩,
     ⟨pingInterval * pingCount,
      Text.decimal pingCount ++ " packets transmitted, " ++ Text.decimal pingCount ++
        " received, 0% packet loss"⟩]

/-- Sends requests to a host; the replies come in one after the other. -/
def ping (suffix : String) : Command where
  info := pingInfo
  run _ arguments := do
    let host ← oneArgument pingInfo arguments
    if Hosts.isKnown suffix host then return .scheduled (Hosts.replyLine host 1) (pingReplies host)
    else return .text ("ping: could not resolve host " ++ host)

/-- What is known of `ssh`. -/
def sshInfo : CommandInfo where
  name := "ssh"
  usage := "ssh <user>@<host>"
  description := "Open a remote session"
  category := "network"

/-- The user and the host in `user@host`, parted at the first `@`; neither is empty. -/
def userAndHost? (target : String) : Option (String × String) :=
  let cs := target.toList
  let user := cs.takeWhile (· ≠ '@')
  let host := (cs.dropWhile (· ≠ '@')).drop 1
  if user.isEmpty ∨ host.isEmpty then none else some (String.ofList user, String.ofList host)

/-- Opens a session on a host. -/
def ssh (suffix : String) : Command where
  info := sshInfo
  run _ arguments := do
    let target ← oneArgument sshInfo arguments
    match userAndHost? target with
    | none => fail sshInfo.usageFailure
    | some (user, host) =>
      if Hosts.isKnown suffix host then
        return .text ("Password for " ++ user ++ "@" ++ host ++ ":\nAuthentication successful.")
      else return .text ("ssh: could not resolve host " ++ host)

/-- The commands on the network. -/
def network (suffix : String) : List Command :=
  [ping suffix, ssh suffix]

end ConfinedShell.Commands
