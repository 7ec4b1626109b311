import ConfinedShell.Arrow
import ConfinedShell.Editor
import ConfinedShell.Mission
import ConfinedShell.Recall
import ConfinedShell.Session

/-!
# The terminal

The terminal shows a prompt, takes a line, has the session process it and shows what the transcript has
gained, but not the echo of the line, which the typing has left on the screen. Lines that are to appear
later are waited for, so that none is left when the next prompt is shown. Then comes the dialogue of the
missions, and last the editor, when one was asked for; while it is open, lines go to it.

A line of arrows recalls an earlier line, which is shown behind the next prompt; a blank line then runs
it. The terminal is a machine that takes one received line at a time (`step`), and a run is its run over
all of them (`run`). Time goes on between two lines, and a wait may take longer than it was to.

What is shown is written to a page, where a write may break off. That ends the run, unless an editor is
open: then it ends the editor. `stepOn` and `runOn` do the same as `step` and `run` on a page.
-/

set_option autoImplicit false

namespace ConfinedShell

/-- What hears of the processed lines: the cursor for recalling them and the missions. -/
structure Listener where
  cursor : Recall
  tracker : Tracker

namespace Listener

/-- A listener that has heard nothing. -/
def start : Listener :=
  ⟨Recall.empty, Tracker.start⟩

/-- Records a line for recalling it. -/
def recordLine : Subscriber Listener := fun notice listener =>
  { listener with cursor := listener.cursor.record notice.line }

/-- Lets a line advance the missions. -/
def advanceMission : Subscriber Listener := fun notice listener =>
  { listener with tracker := listener.tracker.onLine notice.line }

end Listener

/-- **A terminal** with its session. -/
structure Terminal where
  session : Session Listener
  hostname : String
  prompt : String
  /-- How much of the transcript the screen shows. -/
  printed : Nat := 0
  /-- The line that a blank line will run. -/
  recalled : Option String := none
  /-- The editor, while one is open. -/
  editor : Option Editor := none
  now : Moment
  /-- The milliseconds by which the time is going to run on, each time that it does. -/
  lags : Nat → Nat := fun _ => 0

/-- What stops a run before its end. -/
inductive Stop where
  | reading (cause : HostError)
  | writing (cause : HostError)
  /-- A call of the session broke down. -/
  | breakdown
  deriving DecidableEq

/-- The words for it. -/
def Stop.message : Stop → String
  | reading cause | writing cause => cause.message
  | breakdown => "overflow when adding duration to instant"

/-- Whether the terminal takes more lines. -/
inductive Status where
  | running
  | finished
  | failed (stop : Stop)
  deriving DecidableEq

/-- What the terminal writes to clear the screen. -/
def clearScreen : String := "\x1b[2J\x1b[H"

/-- The user whom the prompt names. -/
def userName : String := "usuario1"

/-- What stands in front of the message of a failed editor. -/
def editorFailureMark : String := "Error in nano: "

namespace Terminal

/-- A terminal over a session, whose lines it listens to. -/
def start (session : Session Listener) (hostname prompt : String) (now : Moment) (lags : Nat → Nat := fun _ => 0) :
    Terminal where
  session := (session.subscribe Listener.recordLine).subscribe Listener.advanceMission
  hostname := hostname
  prompt := prompt
  now := now
  lags := lags

/-- The time runs on. -/
def tick (terminal : Terminal) : Terminal :=
  { terminal with now := terminal.now + terminal.lags 0, lags := fun n => terminal.lags (n + 1) }

/-- The prompt, with the current directory. -/
def promptText (terminal : Terminal) : String :=
  userName ++ "@" ++ terminal.hostname ++ ":" ++ terminal.session.scene.cwd.text ++ terminal.prompt

/-- What is shown before a line is taken: the prompt and the recalled line, and nothing in the editor. -/
def awaiting (terminal : Terminal) : String :=
  match terminal.editor with
  | some _ => ""
  | none => terminal.promptText ++ terminal.recalled.getD ""

/-- Shows the lines of the transcript that are not on the screen yet. -/
def printNew (terminal : Terminal) : Terminal × String :=
  let transcript := terminal.session.transcript
  ({ terminal with printed := transcript.length },
    String.join ((transcript.drop terminal.printed).map (· ++ "\n")))

/-- The terminal that has waited until a moment and asked for the lines that are due. -/
def waitedUntil (terminal : Terminal) (due : Moment) : Terminal :=
  let woken := { terminal with now := max terminal.now due }.tick
  { woken with session := (woken.session.poll woken.now).2 }

/-- Waits until the first scheduled line is due and shows what is due then, at most `rounds` times. -/
def waitRounds : Nat → Terminal → Terminal × String
  | 0, terminal => (terminal, "")
  | rounds + 1, terminal =>
    match terminal.session.nextDue? with
    | none => (terminal, "")
    | some due =>
      let (terminal, shown) := (terminal.waitedUntil due).printNew
      let (terminal, more) := waitRounds rounds terminal
      (terminal, shown ++ more)

/-- Shows every scheduled line; each round takes at least one. -/
def wait (terminal : Terminal) : Terminal × String :=
  terminal.waitRounds terminal.session.schedule.length

/-- Shows the dialogue of the missions that were done. -/
def tellMissions (terminal : Terminal) : Terminal × String :=
  let listener := terminal.session.audience
  let (messages, tracker) := listener.tracker.takeMessages
  ({ terminal with session := { terminal.session with audience := { listener with tracker } } },
    String.join (messages.map fun message => "\n" ++ message ++ "\n\n"))

/-- The terminal that has counted the echo of a line, or has begun anew on a cleared screen, and has not shown
anything yet of what the line has left in the session. -/
def counted (terminal : Terminal) (session : Session Listener) (echoed : Bool) : Terminal :=
  { terminal with
    session := session.takeCleared.2
    printed := if session.cleared then 0 else if echoed then terminal.printed + 1 else terminal.printed }

/-- Shows everything that comes of a line, which has left `session`. -/
def present (terminal : Terminal) (session : Session Listener) (line : String) : Terminal × String :=
  let mark := if session.cleared then clearScreen else ""
  let (terminal, shown) := (terminal.counted session (tokenize (Text.trim line)).isSome).printNew
  let (terminal, later) := terminal.wait
  let (terminal, told) := terminal.tellMissions
  (terminal, mark ++ shown ++ later ++ told)

/-- The terminal is finished once the session asks for it. -/
def status (terminal : Terminal) : Status :=
  if terminal.session.exitRequested then .finished else .running

/-- Opens the editor, when one was asked for. -/
def openEditor (terminal : Terminal) : Terminal × String :=
  match terminal.session.takeEditorRequest with
  | (none, session) => ({ terminal with session }, "")
  | (some path, session) =>
    match Editor.openOn path session.scene.tree with
    | .ok editor => ({ terminal with session, editor := some editor }, editor.greeting)
    | .error cause => ({ terminal with session }, editorFailureMark ++ cause.message ++ "\n")

/-- Moves the cursor by each arrow; the line at its last place is recalled unless it is empty. -/
def applyArrows (terminal : Terminal) (arrows : List Arrow) : Terminal :=
  let listener := terminal.session.audience
  let cursor := arrows.foldl (fun cursor arrow =>
    match arrow with
    | .up => cursor.up
    | .down => cursor.down) listener.cursor
  { terminal with
    session := { terminal.session with audience := { listener with cursor } }
    recalled := cursor.current?.filter (· ≠ "") }

/-- What an open editor does with a received line. -/
def stepEditor (terminal : Terminal) (editor : Editor) (received : Received) :
    Terminal × String × Status :=
  let scene := terminal.session.scene
  match editor.step scene.tree received terminal.session.trouble with
  | .goesOn editor shown => ({ terminal with editor := some editor }, shown, .running)
  | .ends outcome tree shown =>
    let session := { terminal.session with scene := { scene with tree } }
    let terminal := { terminal with session, editor := none }
    let mark :=
      match outcome with
      | .failed cause => editorFailureMark ++ cause.message ++ "\n"
      | _ => ""
    (terminal, shown ++ mark, terminal.status)

/-- The line that a typed text stands for: a blank one for the recalled line. -/
def lineFor (terminal : Terminal) (text : String) : String :=
  match terminal.recalled with
  | some recalled => if Text.trim text = "" then recalled else text
  | none => text

/-- Shows what comes of a line, which has left `session`, and opens the editor. -/
def conclude (terminal : Terminal) (session : Session Listener) (line : String) : Terminal × String × Status :=
  let (terminal, shown) := terminal.present session line
  let (terminal, opened) := terminal.openEditor
  (terminal, shown ++ opened, if terminal.editor.isSome then .running else terminal.status)

/-- The terminal that has forgotten the line that was recalled. -/
def forgotten (terminal : Terminal) : Terminal :=
  { terminal with recalled := none }

/-- Runs a line: has it processed, shows what comes of it and opens the editor. -/
def runLine (terminal : Terminal) (line : String) : Terminal × String × Status :=
  match terminal.session.handle terminal.now line with
  | (session, true) => ({ terminal.forgotten with session }, "", .failed .breakdown)
  | (session, false) => terminal.forgotten.conclude session line

/-- What the prompt does with a line. -/
def stepPrompt (terminal : Terminal) (text : String) : Terminal × String × Status :=
  match Arrow.parse? text with
  | some arrows => (terminal.applyArrows arrows, "\n", .running)
  | none => terminal.runLine (terminal.lineFor text)

/-- **Takes one received line**: what it shows, and whether the terminal takes more. -/
def step (terminal : Terminal) (received : Received) : Terminal × String × Status :=
  match terminal.editor, received with
  | some editor, received => terminal.stepEditor editor received
  | none, .line text => terminal.stepPrompt text
  | none, .malformed => (terminal, "", .failed (.reading .notText))

/-- What the end of the input does: it closes an open editor, and ends the line of the last prompt. -/
def close (terminal : Terminal) : Terminal × String :=
  match terminal.editor with
  | none => (terminal, "\n")
  | some _ =>
    let terminal := { terminal with editor := none }
    (terminal, if terminal.session.exitRequested then "" else terminal.awaiting ++ "\n")

/-- What a run leaves: the terminal, all that it showed, and the failure that ended it, if one did. -/
structure Run where
  terminal : Terminal
  screen : String
  failure : Option Stop

/-- **Takes received lines** until the session is left or the input ends. -/
def run (terminal : Terminal) : List Received → Run
  | [] =>
    let (closed, shown) := terminal.close
    ⟨closed, terminal.awaiting ++ shown, none⟩
  | received :: rest =>
    let prompted := terminal.awaiting
    match terminal.step received with
    | (terminal, shown, .running) =>
      let after := terminal.tick.run rest
      { after with screen := prompted ++ shown ++ after.screen }
    | (terminal, shown, .finished) => ⟨terminal, prompted ++ shown, none⟩
    | (terminal, shown, .failed stop) => ⟨terminal, prompted ++ shown, some stop⟩

/-! ## On a page -/

/-- The entries of the transcript that are not on the screen. -/
def unprinted (terminal : Terminal) : List String :=
  terminal.session.transcript.drop terminal.printed

/-- What `printNew` writes. The entries count as shown when all of them were written. -/
def printWrites (terminal : Terminal) : List (Written × Terminal) :=
  terminal.unprinted.map (fun line => (.entry line, terminal)) ++ [(.other "", terminal.printNew.1)]

/-- What `waitRounds` writes. -/
def waitWrites : Nat → Terminal → List (Written × Terminal)
  | 0, _ => []
  | rounds + 1, terminal =>
    match terminal.session.nextDue? with
    | none => []
    | some due =>
      (terminal.waitedUntil due).printWrites ++ waitWrites rounds (terminal.waitedUntil due).printNew.1

/-- What is written of the dialogue of the missions. -/
def missionWrites (terminal : Terminal) : List (Written × Terminal) :=
  terminal.session.audience.tracker.takeMessages.1.map fun message =>
    (.other ("\n" ++ message ++ "\n\n"), terminal.tellMissions.1)

/-- What `present` writes. -/
def presentWrites (terminal : Terminal) (session : Session Listener) (line : String) : List (Written × Terminal) :=
  let counted := terminal.counted session (tokenize (Text.trim line)).isSome
  let printed := counted.printNew.1
  (if session.cleared then [(.other clearScreen, { counted with printed := terminal.printed })] else []) ++
    counted.printWrites ++ waitWrites printed.session.schedule.length printed ++ printed.wait.1.missionWrites

/-- Puts what there is to say of an editor that has failed, and goes on without it. -/
def failEditor (writer : Writer) (page : Page) (terminal : Terminal) (cause : EditorFailure) :
    Page × Terminal × Status :=
  let closed := { terminal with editor := none }
  match page.put writer (.other (editorFailureMark ++ cause.message ++ "\n")) with
  | (page, none) => (page, closed, closed.status)
  | (page, some cause) => (page, closed, .failed (.writing cause))

/-- Opens the editor on a page. -/
def openEditorOn (writer : Writer) (page : Page) (terminal : Terminal) : Page × Terminal × Status :=
  match terminal.session.takeEditorRequest with
  | (none, session) => (page, { terminal with session }, { terminal with session }.status)
  | (some path, session) =>
    match Editor.openOn path session.scene.tree with
    | .error cause => { terminal with session }.failEditor writer page cause
    | .ok editor =>
      match page.put writer (.other editor.greeting) with
      | (page, none) => (page, { terminal with session, editor := some editor }, .running)
      | (page, some cause) => { terminal with session }.failEditor writer page (.writing cause)

/-- What an open editor does on a page. -/
def stepEditorOn (writer : Writer) (page : Page) (terminal : Terminal) (editor : Editor) (received : Received) :
    Page × Terminal × Status :=
  let scene := terminal.session.scene
  match editor.stepOn writer page scene.tree received terminal.session.trouble with
  | (page, .goesOn editor _) => (page, { terminal with editor := some editor }, .running)
  | (page, .ends outcome tree _) =>
    let closed := { terminal with session := { terminal.session with scene := { scene with tree } }, editor := none }
    match outcome with
    | .failed cause => closed.failEditor writer page cause
    | _ => (page, closed, closed.status)

/-- Shows on a page what comes of a line, and opens the editor. -/
def concludeOn (writer : Writer) (page : Page) (terminal : Terminal) (session : Session Listener) (line : String) :
    Page × Terminal × Status :=
  match page.putAll writer (terminal.presentWrites session line) with
  | (page, none) => (terminal.present session line).1.openEditorOn writer page
  | (page, some (cause, left)) => (page, left, .failed (.writing cause))

/-- Runs a line on a page. -/
def runLineOn (writer : Writer) (page : Page) (terminal : Terminal) (line : String) : Page × Terminal × Status :=
  match terminal.session.handle terminal.now line with
  | (session, true) => (page, { terminal.forgotten with session }, .failed .breakdown)
  | (session, false) => terminal.forgotten.concludeOn writer page session line

/-- What the prompt does with a line on a page. -/
def stepPromptOn (writer : Writer) (page : Page) (terminal : Terminal) (text : String) : Page × Terminal × Status :=
  match Arrow.parse? text with
  | some arrows =>
    match page.put writer (.other "\n") with
    | (page, none) => (page, terminal.applyArrows arrows, .running)
    | (page, some cause) => (page, terminal.applyArrows arrows, .failed (.writing cause))
  | none => terminal.runLineOn writer page (terminal.lineFor text)

/-- **Takes one received line on a page.** -/
def stepOn (writer : Writer) (page : Page) (terminal : Terminal) (received : Received) : Page × Terminal × Status :=
  match terminal.editor, received with
  | some editor, received => terminal.stepEditorOn writer page editor received
  | none, .line text => terminal.stepPromptOn writer page text
  | none, .malformed => (page, terminal, .failed (.reading .notText))

/-- Puts what is shown before a line is taken. -/
def awaitOn (writer : Writer) (page : Page) (terminal : Terminal) : Page × Option HostError :=
  match terminal.editor with
  | some _ => (page, none)
  | none => page.put writer (.other terminal.awaiting)

/-- What a run on a page leaves: the terminal, the page, and what stopped the run, if it was stopped. -/
structure Sitting where
  terminal : Terminal
  page : Page
  failure : Option Stop

/-- What the end of the input does on a page. -/
def closeOn (writer : Writer) (page : Page) (terminal : Terminal) : Sitting :=
  let closed := { terminal with editor := none }
  let writes :=
    match terminal.editor with
    | none => [(.other "\n", closed)]
    | some _ =>
      if terminal.session.exitRequested then [] else [(.other closed.awaiting, closed), (.other "\n", closed)]
  let (page, broke) := page.putAll writer writes
  ⟨closed, page, broke.map fun met => .writing met.1⟩

/-- **Takes received lines on a page** until the session is left, the input ends or the run is stopped. -/
def runOn (writer : Writer) (page : Page) (terminal : Terminal) (script : List Received) : Sitting :=
  match terminal.awaitOn writer page, script with
  | (page, some cause), _ => ⟨terminal, page, some (.writing cause)⟩
  | (page, none), [] => terminal.closeOn writer page
  | (page, none), received :: rest =>
    match terminal.stepOn writer page received with
    | (page, terminal, .running) => terminal.tick.runOn writer page rest
    | (page, terminal, .finished) => ⟨terminal, page, none⟩
    | (page, terminal, .failed stop) => ⟨terminal, page, some stop⟩

end Terminal

end ConfinedShell
