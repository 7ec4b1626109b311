import ConfinedShell.Program
import Std.Time.Zoned

/-!
# The command line

Serves a terminal on the standard input and output. The tree of files is held in memory for as long as
the program runs: of the machine's files only the configuration is read, and none is written. What a
line leads to is shown when the last of its scheduled lines is due.
-/

set_option autoImplicit false

namespace ConfinedShell.CommandLine

/-- The variable of the environment that names a root. -/
def rootVariable : String := "SANDSHELL_ROOT"

/-- The present moment. -/
def present : BaseIO Moment := do
  return ((← IO.monoMsNow) : Nat)

/-- A date and time of the library. -/
def dateTime (reading : Std.Time.PlainDateTime) : Calendar.DateTime where
  year := reading.year.toInt
  month := reading.month.toNat
  day := reading.day.toNat
  hour := reading.hour.toNat
  minute := reading.minute.toNat
  second := reading.second.toNat

/-- A clock that runs on from `date` at the moment `start`. -/
def clockFrom (date : Std.Time.PlainDateTime) (start : Moment) : Clock where
  date now := dateTime (date.addMilliseconds (.ofInt (now - start)))
  uptime now := (now - start).toNat / 1000

/-- A tree with the directory that the program was started in and the configuration it is to read. -/
def hostTree (directory : Location) (arguments : List String) : IO FileTree := do
  let tree := ((FileTree.directory []).makeDirectories directory).1
  match Options.read arguments with
  | .run { config := some path, .. } =>
    match Program.hostPath directory path, ← (IO.FS.readBinFile path).toBaseIO with
    | .ok location, .ok bytes =>
      let location := Program.cleanPath location
      let tree := (tree.makeDirectories location.dropLast).1
      return (tree.writeFile location bytes.toList).toOption.getD tree
    | _, _ => return tree
  | _ => return tree

/-- What the program finds on this machine. -/
def host (arguments : List String) : IO Program.Host := do
  let directory := Program.cleanPath (linkParts (← IO.currentDir).toString)
  let start ← present
  return {
    tree := ← hostTree directory arguments
    directory := directory
    environmentRoot := ← IO.getEnv rootVariable
    clock := clockFrom (← Std.Time.PlainDateTime.now) start
    now := start }

/-- Writes bytes at once. -/
def display (bytes : Text.Bytes) : IO Unit := do
  let output ← IO.getStdout
  output.write ⟨bytes.toArray⟩
  output.flush

/-- Reads the bytes of one line, with its line feed; there are none at the end of the input. -/
partial def readLine (input : IO.FS.Stream) (line : ByteArray) : IO ByteArray := do
  let byte ← input.read 1
  if byte.isEmpty then return line
  if byte[0]? = some 0x0A then return line ++ byte
  readLine input (line ++ byte)

/-- Waits until `moment`. -/
def waitUntil (moment : Moment) : IO Unit := do
  IO.sleep (moment - (← present)).toNat.toUInt32

/-- Shows the prompt, takes a line and shows what it leads to, until the session is left or the input
ends. -/
partial def serve (terminal : Terminal) : IO UInt32 := do
  display (Text.encode terminal.awaiting)
  let bytes ← readLine (← IO.getStdin) .empty
  match Received.ofBytes bytes.toList with
  | [] =>
    display (Text.encode terminal.close.2)
    return 0
  | received :: _ =>
    let (terminal, shown, status) := { terminal with now := max terminal.now (← present) }.step received
    waitUntil terminal.now
    display (Text.encode shown)
    match status with
    | .running => serve terminal
    | .finished => return 0
    | .failed stop =>
      IO.eprintln stop.message
      return (Program.stopCode stop).toUInt32

/-- Runs the program with its arguments. -/
def run (arguments : List String) : IO UInt32 := do
  match Program.start (← host arguments) arguments with
  | .ready terminal => serve terminal
  | .ended outcome =>
    display outcome.written
    if let some complaint := outcome.complaint then IO.eprintln complaint
    return outcome.code.toUInt32

end ConfinedShell.CommandLine

/-- The program. -/
def main (arguments : List String) : IO UInt32 :=
  ConfinedShell.CommandLine.run arguments
