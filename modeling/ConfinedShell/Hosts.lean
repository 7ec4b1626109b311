import ConfinedShell.Text.Column
import ConfinedShell.Text.Utf8

/-!
# Host names

No name is ever looked up: a host is known when it is `localhost` or ends in a fixed suffix. The time
that a reply takes is made up from the host's name and the number of the reply, and lies between 0.1
and 4.9 milliseconds.
-/

set_option autoImplicit false

namespace ConfinedShell.Hosts

/-- A host is known when it is `localhost` or ends in the suffix; the empty suffix makes none known. -/
def isKnown (suffix host : String) : Bool :=
  host = "localhost" || (suffix ≠ "" && suffix.toList.isSuffixOf host.toList)

/-- A number made from the bytes of a name, on 32 bits. -/
def checksum (host : String) : UInt32 :=
  (Text.encode host).foldl (fun sum byte => sum * 31 + byte.toUInt32) 0

/-- The time of a reply in tenths of a millisecond. -/
def replyTenths (host : String) (sequence : Nat) : Nat :=
  1 + ((checksum host + UInt32.ofNat sequence * 17) % 49).toNat

/-- The line of a reply. -/
def replyLine (host : String) (sequence : Nat) : String :=
  let tenths := replyTenths host sequence
  "64 bytes from " ++ host ++ ": icmp_seq=" ++ Text.decimal sequence ++ " time=" ++
    Text.decimal (tenths / 10) ++ "." ++ Text.decimal (tenths % 10) ++ " ms"

end ConfinedShell.Hosts
