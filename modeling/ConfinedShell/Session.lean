import ConfinedShell.Command.Registry
import ConfinedShell.Text.Lines

/-!
# Sessions

A session processes one line at a time. A blank line does nothing. Any other line is echoed to the
transcript and noted in the history; the command of its first word runs; its output, or one line for its
failure, goes to the transcript; and last the subscribers are told of the line. Output that is to appear
later waits in the schedule until `poll` or `flush` brings it to the transcript.

A command that breaks down is a failure like any other. But the call itself breaks down when a line is to
appear at a moment that there is not: what was done before stays, and the subscribers are not told.

Subscribers act on a common value of type `σ`, of which the session knows nothing.
-/

set_option autoImplicit false

namespace ConfinedShell

/-- What subscribers are told: the line that was processed, and the transcript after it. -/
structure Notice where
  line : String
  transcript : List String
  deriving DecidableEq

/-- What a subscriber does with the value that the subscribers share. -/
abbrev Subscriber (σ : Type) := Notice → σ → σ

/-- **A session** and all that it remembers. -/
structure Session (σ : Type) where
  registry : Registry
  sandbox : Sandbox
  clock : Clock
  /-- The storage as each line finds it, given the number of the line in the history. -/
  storage : Nat → Storage
  scene : Scene
  history : List String := []
  transcript : List String := []
  subscribers : List (Subscriber σ) := []
  audience : σ
  schedule : Schedule := []
  editorRequest : Option Resolved := none
  cleared : Bool := false
  exitRequested : Bool := false

/-- What stands in front of an echoed line. -/
def echoMark : String := "> "

namespace Session

variable {σ : Type}

/-- A new session at the root of a sandbox. -/
def start (registry : Registry) (sandbox : Sandbox) (clock : Clock) (tree : FileTree) (audience : σ)
    (storage : Nat → Storage := fun _ => {}) : Session σ where
  registry := registry
  sandbox := sandbox
  clock := clock
  storage := storage
  scene := ⟨tree, VirtualPath.root⟩
  audience := audience

/-- Adds a subscriber, who is told after those that are there. -/
def subscribe (session : Session σ) (subscriber : Subscriber σ) : Session σ :=
  { session with subscribers := session.subscribers ++ [subscriber] }

/-- The trouble that the storage gives now. -/
def trouble (session : Session σ) : Option Trouble :=
  (session.storage session.history.length).trouble

/-- What a command may read of the session. -/
def surroundings (session : Session σ) (now : Moment) : Surroundings where
  sandbox := session.sandbox
  commands := session.registry.infos
  history := session.history
  clock := session.clock
  now := now
  storage := session.storage session.history.length

/-- Adds lines to the transcript. -/
def addLines (session : Session σ) (lines : List String) : Session σ :=
  { session with transcript := session.transcript ++ lines }

/-- Runs the command called `name`; a command that is not there is a failure. -/
def dispatch (session : Session σ) (now : Moment) (name : String) (arguments : List String) :
    EStateM.Result Fault Scene Output :=
  match session.registry.find? name with
  | none => .error (.failure (.unknownCommand name)) session.scene
  | some command => command.run (session.surroundings now) arguments session.scene

/-- Does what an output says. -/
def apply (session : Session σ) (now : Moment) : Output → Session σ
  | .text text => session.addLines (Text.rows text)
  | .lines lines => session.addLines lines
  | .silent => session
  | .clear => { session with transcript := [], cleared := true }
  | .exit => { session with exitRequested := true }
  | .edit path => { session with editorRequest := some path }
  | .scheduled text later =>
    let session := session.addLines (Text.rows text)
    { session with schedule := session.schedule.add now later }

/-- The line that reports a failure of the command called `name`. -/
def failureLine (name : String) : Failure → String
  | .usage text => (Failure.usage text).message
  | .unknownCommand name => (Failure.unknownCommand name).message
  | cause => "Error in " ++ name ++ ": " ++ cause.message

/-- Does what a command says that has ended, or reports its failure. -/
def conclude (session : Session σ) (now : Moment) (name : String) : EStateM.Result Fault Scene Output → Session σ
  | .ok output scene => { session with scene }.apply now output
  | .error fault scene => { session with scene }.addLines [failureLine name fault.toFailure]

/-- Whether the call breaks down over what its command has ended with. -/
def breaksDown (now : Moment) : EStateM.Result Fault Scene Output → Bool
  | .ok output _ => output.breaksDown now
  | .error _ _ => false

/-- Tells every subscriber of a line, in the order of their subscription. -/
def publish (session : Session σ) (line : String) : Session σ :=
  let notice : Notice := ⟨line, session.transcript⟩
  let audience := session.subscribers.foldl (fun told tell => tell notice told) session.audience
  { session with audience }

/-- The session that has echoed a line and noted it in the history. -/
def noted (session : Session σ) (line : String) : Session σ :=
  { session.addLines [echoMark ++ line] with history := session.history ++ [line] }

/-- **Processes one line**, and tells whether the call broke down. -/
def handle (session : Session σ) (now : Moment) (line : String) : Session σ × Bool :=
  let line := Text.trim line
  match tokenize line with
  | none => (session, false)
  | some (name, arguments) =>
    let session := session.noted line
    let ended := session.dispatch now name arguments
    let answered := session.conclude now name ended
    if breaksDown now ended then (answered, true) else (answered.publish line, false)

/-- The session that a processed line leaves. -/
def process (session : Session σ) (now : Moment) (line : String) : Session σ :=
  (session.handle now line).1

/-- Brings the scheduled lines that are due to the transcript, and counts them. -/
def poll (session : Session σ) (now : Moment) : Nat × Session σ :=
  let (due, rest) := session.schedule.poll now
  (due.length, { session.addLines (due.map PendingLine.text) with schedule := rest })

/-- Brings every scheduled line to the transcript. -/
def flush (session : Session σ) : Session σ :=
  { session.addLines (session.schedule.map PendingLine.text) with schedule := [] }

/-- When the next scheduled line is due. -/
def nextDue? (session : Session σ) : Option Moment :=
  session.schedule.nextDue?

/-- Empties the transcript. -/
def clearTranscript (session : Session σ) : Session σ :=
  { session with transcript := [] }

/-- The file that is to be edited, which is handed out once. -/
def takeEditorRequest (session : Session σ) : Option Resolved × Session σ :=
  (session.editorRequest, { session with editorRequest := none })

/-- Whether the screen was cleared since this was asked last. -/
def takeCleared (session : Session σ) : Bool × Session σ :=
  (session.cleared, { session with cleared := false })

end Session

end ConfinedShell
