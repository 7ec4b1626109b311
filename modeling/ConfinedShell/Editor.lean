import ConfinedShell.Input
import ConfinedShell.Page
import ConfinedShell.Sandbox

/-!
# The editor

A line editor for one file. It loads the lines of the file, or none when there is no file; a typed line is
appended to them. Four lines are orders: `:wq` saves and ends, `:q` ends, `:p` prints the lines and `:d`
drops the last one. The end of the input ends the editor without saving. Nothing is written to the file but by
`:wq`.

The editor shows what it has to show on a page, and fails when a write to the page breaks off. By then it may have
saved the file.
-/

set_option autoImplicit false

namespace ConfinedShell

/-- How an editor fails. -/
inductive EditorFailure where
  | reading (path : Resolved) (cause : Failure)
  | saving (path : Resolved) (cause : Failure)
  /-- What was typed is not text. -/
  | input
  /-- What was to be shown could not be written. -/
  | writing (cause : HostError)
  deriving DecidableEq

/-- The words for a failed editor: what it was doing, and the chain of causes. -/
def EditorFailure.message : EditorFailure → String
  | reading path cause => Text.joinWith ": " (("reading " ++ path.text) :: cause.chain)
  | saving path cause => Text.joinWith ": " (("saving " ++ path.text) :: cause.chain)
  | input => HostError.notText.message
  | writing cause => cause.message

/-- How an editor ends. -/
inductive EditorOutcome where
  | saved
  | discarded
  | failed (cause : EditorFailure)
  deriving DecidableEq

/-- **An open editor**: its file, and the lines in its buffer. -/
structure Editor where
  path : Resolved
  buffer : List String
  deriving DecidableEq

namespace Editor

/-- The lines of a buffer with their numbers. -/
def printed (buffer : List String) : String :=
  String.join ((buffer.zipIdx 1).map fun entry =>
    Text.padLeft 4 (Text.decimal entry.2) ++ "  " ++ entry.1 ++ "\n")

/-- What the editor shows when it opens. -/
def greeting (editor : Editor) : String :=
  "-- " ++ editor.path.text ++ " -- :wq save, :q quit, :p print, :d delete last line\n" ++
    printed editor.buffer

/-- Opens the editor on a path. -/
def openOn (path : Resolved) (tree : FileTree) : Except EditorFailure Editor :=
  if path.isRegular tree then
    match path.readText tree with
    | .ok text => .ok ⟨path, Text.lines text⟩
    | .error cause => .error (.reading path cause)
  else .ok ⟨path, []⟩

/-- The text that a buffer is saved as: a line feed between lines, and one at the end unless the text is
empty. -/
def savedText (buffer : List String) : String :=
  let text := Text.joinWith "\n" buffer
  if text = "" then "" else text ++ "\n"

/-- What one received line does: the editor stays open, or it ends with an outcome. -/
inductive Step where
  | goesOn (editor : Editor) (shown : String)
  | ends (outcome : EditorOutcome) (tree : FileTree) (shown : String)

/-- **Takes one received line.** -/
def step (editor : Editor) (tree : FileTree) (received : Received) (trouble : Option Trouble := none) : Step :=
  match received with
  | .malformed => .ends (.failed .input) tree ""
  | .line ":wq" =>
    match editor.path.send trouble (Text.encode (savedText editor.buffer)) tree with
    | (tree, .ok ()) => .ends .saved tree ("written to " ++ editor.path.text ++ "\n")
    | (tree, .error cause) => .ends (.failed (.saving editor.path cause)) tree ""
  | .line ":q" => .ends .discarded tree ""
  | .line ":p" => .goesOn editor (printed editor.buffer)
  | .line ":d" => .goesOn { editor with buffer := editor.buffer.dropLast } ""
  | .line text => .goesOn { editor with buffer := editor.buffer ++ [text] } ""

/-- What a run of the editor leaves: its outcome, the files, what it showed, and the input that it did not
take. -/
structure Run where
  outcome : EditorOutcome
  tree : FileTree
  shown : String
  rest : List Received

/-- Takes received lines until the editor ends; the end of the input discards the buffer. -/
def run (editor : Editor) (tree : FileTree) (shown : String) (input : List Received)
    (trouble : Option Trouble := none) : Run :=
  match input with
  | [] => ⟨.discarded, tree, shown, []⟩
  | received :: rest =>
    match editor.step tree received trouble with
    | .goesOn editor more => editor.run tree (shown ++ more) rest trouble
    | .ends outcome tree more => ⟨outcome, tree, shown ++ more, rest⟩

/-- **Edits a file**: opens the editor on it and lets it take what is received. -/
def edit (path : Resolved) (tree : FileTree) (input : List Received) (trouble : Option Trouble := none) : Run :=
  match openOn path tree with
  | .error cause => ⟨.failed cause, tree, "", input⟩
  | .ok editor => editor.run tree editor.greeting input trouble

/-! ## On a page -/

/-- Takes one received line and puts on a page what there is to show. When that breaks off the editor ends, with the
files as the line has left them. -/
def stepOn (writer : Writer) (page : Page) (editor : Editor) (tree : FileTree) (received : Received)
    (trouble : Option Trouble := none) : Page × Step :=
  match editor.step tree received trouble with
  | .goesOn next shown =>
    match page.put writer (.other shown) with
    | (page, none) => (page, .goesOn next shown)
    | (page, some cause) => (page, .ends (.failed (.writing cause)) tree "")
  | .ends .saved after shown =>
    match page.put writer (.other shown) with
    | (page, none) => (page, .ends .saved after shown)
    | (page, some cause) => (page, .ends (.failed (.writing cause)) after "")
  | ended => (page, ended)

/-- What a sitting at the editor leaves: its outcome, the files, the page, and the input that it did not take. -/
structure Sitting where
  outcome : EditorOutcome
  tree : FileTree
  page : Page
  rest : List Received

/-- Takes received lines until the editor ends; the end of the input discards the buffer. -/
def runOn (writer : Writer) (page : Page) (editor : Editor) (tree : FileTree) (input : List Received)
    (trouble : Option Trouble := none) : Sitting :=
  match input with
  | [] => ⟨.discarded, tree, page, []⟩
  | received :: rest =>
    match editor.stepOn writer page tree received trouble with
    | (page, .goesOn editor _) => editor.runOn writer page tree rest trouble
    | (page, .ends outcome tree _) => ⟨outcome, tree, page, rest⟩

/-- **Edits a file on a page.** -/
def editOn (writer : Writer) (page : Page) (path : Resolved) (tree : FileTree) (input : List Received)
    (trouble : Option Trouble := none) : Sitting :=
  match openOn path tree with
  | .error cause => ⟨.failed cause, tree, page, input⟩
  | .ok editor =>
    match page.put writer (.other editor.greeting) with
    | (page, none) => editor.runOn writer page tree input trouble
    | (page, some cause) => ⟨.failed (.writing cause), tree, page, input⟩

end Editor

end ConfinedShell
