import ConfinedShell.Command.Basic
import ConfinedShell.Text.Lines

/-!
# Commands on text

These show a file or parts of it, compare two files, and write a line of text. `cat` shows the rows of a
text; the others work on its lines. Only `echo` changes anything, and only with a `>` among its
arguments.
-/

set_option autoImplicit false

namespace ConfinedShell.Commands

open ConfinedShell.Action

/-- The text of the file that `input` names. -/
def readFile (around : Surroundings) (input : String) : Action String := do
  let path ← resolve around input
  query path.readText

/-- Lines as an output; no line at all is no output. -/
def linesOutput : List String → Output
  | [] => .silent
  | lines => .lines lines

/-- What is known of `cat`. -/
def catInfo : CommandInfo where
  name := "cat"
  usage := "cat <file>"
  description := "Display file contents"
  category := "text"

/-- Shows a file. -/
def cat : Command where
  info := catInfo
  run around arguments := do
    let text ← readFile around (← oneArgument catInfo arguments)
    return .text text

/-- What is known of `echo`. -/
def echoInfo : CommandInfo where
  name := "echo"
  usage := "echo <text> [> file]"
  description := "Print text, or write it to a file"
  category := "text"

/-- Takes `mark` off both ends, when the text has it at both. -/
def stripMark? (mark : Char) (cs : List Char) : Option (List Char) :=
  match cs with
  | first :: rest =>
    if first = mark ∧ rest.getLast? = some mark then some rest.dropLast else none
  | [] => none

/-- Takes one pair of matching quotes off the ends. -/
def unquote (s : String) : String :=
  match stripMark? '\x22' s.toList with
  | some body => String.ofList body
  | none =>
    match stripMark? '\x27' s.toList with
    | some body => String.ofList body
    | none => s

/-- Shows its arguments, or writes those in front of the first `>` into the file named behind it. -/
def echo : Command where
  info := echoInfo
  run around arguments := do
    if arguments.isEmpty then fail echoInfo.usageFailure
    else if !arguments.contains ">" then return .text (unquote (Text.joinWith " " arguments))
    else
      let text := Text.joinWith " " (arguments.takeWhile (· ≠ ">"))
      let file := Text.joinWith " " ((arguments.dropWhile (· ≠ ">")).drop 1)
      if file = "" then fail echoInfo.usageFailure
      else
        let path ← resolve around file
        attempt (path.send around.storage.trouble (Text.encode (unquote (Text.trim text))))
        return .text ("written to " ++ file)

/-- What is known of `grep`. -/
def grepInfo : CommandInfo where
  name := "grep"
  usage := "grep <pattern> <file>"
  description := "Print lines containing a literal pattern"
  category := "text"

/-- Whether the characters of `pattern` stand somewhere in a row in `line`. -/
def occursIn (pattern : List Char) : List Char → Bool
  | [] => pattern.isEmpty
  | c :: rest => pattern.isPrefixOf (c :: rest) || occursIn pattern rest

/-- Shows the lines that contain a text. -/
def grep : Command where
  info := grepInfo
  run around arguments := do
    let (pattern, file) ← twoArguments grepInfo arguments
    let text ← readFile around file
    return linesOutput ((Text.lines text).filter fun line => occursIn pattern.toList line.toList)

/-- The count and the file in `-n <count> <file>`. -/
def countAndFile (info : CommandInfo) : List String → Action (Nat × String)
  | ["-n", count, file] =>
    match Text.count? count with
    | some n => pure (n, file)
    | none => fail info.usageFailure
  | _ => fail info.usageFailure

/-- What is known of `head`. -/
def headInfo : CommandInfo where
  name := "head"
  usage := "head -n <N> <file>"
  description := "Print the first N lines of a file"
  category := "text"

/-- Shows the first lines of a file. -/
def head : Command where
  info := headInfo
  run around arguments := do
    let (count, file) ← countAndFile headInfo arguments
    let text ← readFile around file
    return linesOutput ((Text.lines text).take count)

/-- What is known of `tail`. -/
def tailInfo : CommandInfo where
  name := "tail"
  usage := "tail -n <N> <file>"
  description := "Print the last N lines of a file"
  category := "text"

/-- Shows the last lines of a file. -/
def tail : Command where
  info := tailInfo
  run around arguments := do
    let (count, file) ← countAndFile tailInfo arguments
    let text ← readFile around file
    let lines := Text.lines text
    return linesOutput (lines.drop (lines.length - count))

/-- What is known of `diff`. -/
def diffInfo : CommandInfo where
  name := "diff"
  usage := "diff <file1> <file2>"
  description := "Compare two files line by line"
  category := "text"

/-- The numbers, from 1 on, of the lines that differ, as far as both texts reach. -/
def differingLines (left right : List String) : List Nat :=
  (((left.zip right).zipIdx 1).filter fun entry => entry.1.1 ≠ entry.1.2).map (·.2)

/-- Names the lines in which two files differ. -/
def diff : Command where
  info := diffInfo
  run around arguments := do
    let (first, second) ← twoArguments diffInfo arguments
    let left ← resolve around first
    let right ← resolve around second
    let scene ← get
    if !left.isRegular scene.tree || !right.isRegular scene.tree then
      fail (.command "one of the files does not exist")
    else
      let leftText ← query left.readText
      let rightText ← query right.readText
      match differingLines (Text.lines leftText) (Text.lines rightText) with
      | [] => return .text "files are identical"
      | numbers =>
        return .text (Text.joinWith "\n" (numbers.map fun n => Text.decimal n ++ "c difference"))

/-- The commands that search, cut and compare files. -/
def texts : List Command :=
  [grep, head, tail, diff]

end ConfinedShell.Commands
