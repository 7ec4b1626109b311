import ConfinedShell.Proofs.Processing
import Mathlib.Data.List.TakeWhile

/-!
# Delivery of scheduled lines

What a session does to its queue is told by two lists. The lines that an event **gives** are read off the
output of the command that it runs (`Session.given`), and the lines that it **takes** are those by which the
front of the queue gets shorter (`Session.taken`). An event gives all lines that the output puts off
(`Session.putOff`), unless the call breaks down at one that has no moment.

**Nothing is lost, doubled or overtaken.** Over a whole run, what was taken and then what still waits is
what waited at first and then what was given. What a poll or a flush takes comes to the end of the
transcript, and a poll takes no line before its moment (`Session.deliveries_in_order`).

**A poll can miss a due line**, since it goes through the queue from the front and stops at the first line
that is not due. It misses none, whatever the moment, exactly when the lines wait in the order of their
moments (`Session.poll_caughtUp_iff`). They do as long as each command gives its lines in that order and
behind those that wait (`Session.InTurn`). Two commands whose lines overlap in time break it
(`Session.poll_misses_due_line`).
-/

set_option autoImplicit false

namespace ConfinedShell

/-! ## The queue -/

namespace Schedule

variable {queue rest : Schedule} {now due : Moment}

/-- **A queue is in order** when no line waits behind one that is due later. -/
def InOrder (queue : Schedule) : Prop :=
  queue.Pairwise fun first second => first.due ≤ second.due

instance (queue : Schedule) : Decidable queue.InOrder :=
  inferInstanceAs (Decidable (List.Pairwise _ queue))

/-- **A queue has caught up** with a moment when all that waits is due later, and it can be told when the
next line is due: at the earliest moment at which one is, and never only when none waits. -/
structure CaughtUp (queue : Schedule) (now : Moment) : Prop where
  later : ∀ line ∈ queue, now < line.due
  earliest : ∀ due, queue.nextDue? = some due →
    (∃ line ∈ queue, line.due = due) ∧ ∀ line ∈ queue, due ≤ line.due
  never : queue.nextDue? = none ↔ queue = []

theorem nextDue?_eq_none : queue.nextDue? = none ↔ queue = [] := by
  simp [nextDue?]

/-- In a queue in order, the line at the front is due first. -/
theorem InOrder.earliest (ordered : queue.InOrder) (next : queue.nextDue? = some due) :
    (∃ line ∈ queue, line.due = due) ∧ ∀ line ∈ queue, due ≤ line.due := by
  cases queue with
  | nil => cases next
  | cons first rest =>
    obtain rfl : first.due = due := by simpa [nextDue?] using next
    refine ⟨⟨first, List.mem_cons_self, rfl⟩, fun line mem => ?_⟩
    rcases List.mem_cons.mp mem with rfl | behind
    · exact Int.le_refl _
    · exact List.rel_of_pairwise_cons ordered behind

/-- A poll that finds the line at the front due goes on behind it. -/
theorem poll_cons_of_due {first : PendingLine} (isDue : first.due ≤ now) :
    (poll (first :: rest) now).2 = (poll rest now).2 := by
  have holds : Schedule.isDue now first = true := decide_eq_true isDue
  simp only [poll, List.dropWhile_cons, holds, if_true]

/-- A poll that finds the line at the front not due leaves the queue as it is. -/
theorem poll_cons_of_not_due {first : PendingLine} (notDue : now < first.due) :
    (poll (first :: rest) now).2 = first :: rest := by
  have fails : Schedule.isDue now first = false := decide_eq_false (Int.not_le.mpr notDue)
  simp only [poll, List.dropWhile_cons, fails, Bool.false_eq_true, if_false]

/-- What a poll leaves is in order when the queue was. -/
theorem InOrder.poll (ordered : queue.InOrder) (now : Moment) : (queue.poll now).2.InOrder :=
  List.Pairwise.sublist (List.dropWhile_sublist _) ordered

/-- **A poll misses no due line** of a queue in order. -/
theorem InOrder.later_of_poll (ordered : queue.InOrder) (now : Moment) :
    ∀ line ∈ (queue.poll now).2, now < line.due := by
  induction queue with
  | nil => exact fun _ mem => nomatch mem
  | cons first rest ih =>
    obtain ⟨behind, restOrdered⟩ := List.pairwise_cons.mp ordered
    by_cases isDue : first.due ≤ now
    · rw [poll_cons_of_due isDue]
      exact ih restOrdered
    · have notDue : now < first.due := Int.not_le.mp isDue
      rw [poll_cons_of_not_due notDue]
      intro line mem
      rcases List.mem_cons.mp mem with rfl | after
      · exact notDue
      · exact Int.lt_of_lt_of_le notDue (behind line after)

/-- A queue of which no poll misses a due line is in order: a poll at the moment of a line that waits behind
one due later would miss it. -/
theorem inOrder_of_polls (complete : ∀ now, ∀ line ∈ (queue.poll now).2, now < line.due) :
    queue.InOrder := by
  induction queue with
  | nil => exact List.Pairwise.nil
  | cons first rest ih =>
    have behind : ∀ line ∈ rest, first.due ≤ line.due := by
      intro line mem
      refine Int.not_lt.mp fun early => ?_
      have left := complete line.due
      rw [poll_cons_of_not_due early] at left
      exact Int.lt_irrefl _ (left line (List.mem_cons_of_mem _ mem))
    refine List.pairwise_cons.mpr ⟨behind, ih fun now line mem => ?_⟩
    by_cases isDue : first.due ≤ now
    · have left := complete now
      rw [poll_cons_of_due isDue] at left
      exact left line mem
    · have waits : line ∈ rest := (List.dropWhile_sublist _).subset mem
      exact Int.lt_of_lt_of_le (Int.not_le.mp isDue) (behind line waits)

/-- **Polls catch up, whatever the moment, exactly when the queue is in order.** -/
theorem caughtUp_polls_iff : (∀ now, (queue.poll now).2.CaughtUp now) ↔ queue.InOrder := by
  constructor
  · intro caughtUp
    exact inOrder_of_polls fun now => (caughtUp now).later
  · intro ordered now
    exact ⟨ordered.later_of_poll now, fun _ => (ordered.poll now).earliest, nextDue?_eq_none⟩

end Schedule

/-! ## What events give and take -/

/-- The lines that an output puts off. -/
def Output.later : Output → List DelayedLine
  | .scheduled _ later => later
  | _ => []

namespace Session

variable {σ : Type}

/-- What is done to a session: a line is processed at a moment, lines that are due are asked for, all lines
are, or the transcript is emptied. -/
inductive Event where
  | process (now : Moment) (line : String)
  | poll (now : Moment)
  | flush
  | clear

/-- The session after an event. -/
def perform (session : Session σ) : Event → Session σ
  | .process now line => session.process now line
  | .poll now => (session.poll now).2
  | .flush => session.flush
  | .clear => session.clearTranscript

/-- The session after events, one after the other. -/
def performAll (session : Session σ) : List Event → Session σ
  | [] => session
  | event :: rest => (session.perform event).performAll rest

/-- **The lines that an event puts off**: those of the output of its command, in their order, each due when its
delay has passed. A command that fails puts none off. -/
def putOff (session : Session σ) : Event → List PendingLine
  | .process now line =>
    match tokenize (Text.trim line) with
    | none => []
    | some (name, arguments) =>
      match (session.noted (Text.trim line)).dispatch now name arguments with
      | .ok output _ => output.later.map (·.since now)
      | .error _ _ => []
  | .poll _ | .flush | .clear => []

/-- **The lines that an event gives**: those that it puts off, up to the first one that has no moment. -/
def given (session : Session σ) (event : Event) : List PendingLine :=
  (session.putOff event).takeWhile fun line => line.due ≤ lastMoment

/-- **An event returns** unless its call breaks down. -/
def Returns (session : Session σ) : Event → Prop
  | .process now line => (session.handle now line).2 = false
  | .poll _ | .flush | .clear => True

/-- **The lines that an event takes**: as many from the front of the queue as it gets shorter by. -/
def taken (session : Session σ) (event : Event) : List PendingLine :=
  session.schedule.take (session.schedule.length - (session.perform event).schedule.length)

/-- Whether each event of a run returns when it comes. -/
def AllReturn (session : Session σ) : List Event → Prop
  | [] => True
  | event :: rest => session.Returns event ∧ (session.perform event).AllReturn rest

instance (session : Session σ) (event : Event) : Decidable (session.Returns event) := by
  cases event <;> unfold Returns <;> infer_instance

instance decidableAllReturn : (session : Session σ) → (events : List Event) → Decidable (session.AllReturn events)
  | _, [] => .isTrue trivial
  | session, event :: rest =>
    have := decidableAllReturn (session.perform event) rest
    inferInstanceAs (Decidable (_ ∧ _))

/-- What an output puts off comes to the end of the queue, up to the first line that has no moment. -/
theorem schedule_apply (session : Session σ) (now : Moment) (output : Output) :
    (session.apply now output).schedule =
      session.schedule ++ (output.later.map (·.since now)).takeWhile fun line => line.due ≤ lastMoment := by
  cases output with
  | scheduled text later =>
    rw [Output.later, List.takeWhile_map]
    rfl
  | _ => exact (List.append_nil _).symm

/-- A line that is processed adds to the queue what it gives. -/
theorem schedule_process (session : Session σ) (now : Moment) (line : String) :
    (session.process now line).schedule = session.schedule ++ session.given (.process now line) := by
  cases tokens : tokenize (Text.trim line) with
  | none =>
    rw [process_of_blank tokens, given, putOff, tokens]
    exact (List.append_nil _).symm
  | some call =>
    obtain ⟨name, arguments⟩ := call
    obtain ⟨audience, told⟩ := session.exists_process_of_tokens tokens now
    rw [told, given, putOff, tokens, respond]
    dsimp only
    cases (session.noted (Text.trim line)).dispatch now name arguments with
    | ok output scene => exact schedule_apply _ now output
    | error fault scene => exact (List.append_nil _).symm

/-- What was taken from a queue of which an end is left is the rest. -/
theorem take_length_sub {α : Type} (front rest : List α) :
    (front ++ rest).take ((front ++ rest).length - rest.length) = front := by
  rw [List.length_append, Nat.add_sub_cancel, List.take_left]

/-- Processing a line takes nothing. -/
theorem taken_process (session : Session σ) (now : Moment) (line : String) :
    session.taken (.process now line) = [] := by
  have grows : (session.perform (.process now line)).schedule =
      session.schedule ++ session.given (.process now line) := session.schedule_process now line
  rw [taken, grows, List.length_append, Nat.sub_eq_zero_of_le (Nat.le_add_right _ _), List.take_zero]

/-- A poll takes the lines at the front that are due. -/
theorem taken_poll (session : Session σ) (now : Moment) :
    session.taken (.poll now) = (session.schedule.poll now).1 := by
  have taken := take_length_sub (session.schedule.poll now).1 (session.schedule.poll now).2
  rw [Schedule.poll_append] at taken
  exact taken

/-- A flush takes all lines. -/
theorem taken_flush (session : Session σ) : session.taken .flush = session.schedule :=
  List.take_length

/-- Emptying the transcript takes nothing. -/
theorem taken_clear (session : Session σ) : session.taken .clear = [] := by
  have same : (session.perform .clear).schedule = session.schedule := rfl
  rw [taken, same, Nat.sub_self, List.take_zero]

/-- **What an event takes and leaves** is what waited before and what it gives. -/
theorem taken_append_schedule (session : Session σ) (event : Event) :
    session.taken event ++ (session.perform event).schedule =
      session.schedule ++ session.given event := by
  cases event with
  | process now line =>
    rw [taken_process, List.nil_append]
    exact session.schedule_process now line
  | poll now =>
    rw [taken_poll]
    exact (session.schedule.poll_append now).trans (List.append_nil _).symm
  | flush =>
    rw [taken_flush]
    rfl
  | clear =>
    rw [taken_clear]
    exact (List.append_nil _).symm

end Session

/-! ## Two commands with delayed output -/

namespace TwoPings

/-- A session over an empty root. -/
def session : Session Unit :=
  Session.start ⟨Commands.builtin ".com"⟩ ⟨["root"]⟩ (Clock.fixed ⟨2024, 1, 1, 0, 0, 0⟩ 0)
    (.directory [("root", .directory [])]) ()

/-- The second command starts while the replies to the first one still come in. -/
def overlapping : List Session.Event :=
  [.process 0 "ping localhost", .process 50 "ping localhost"]

/-- The second command starts when a poll has brought all that the first one gave. Between them a command
fails and the screen is cleared. -/
def apart : List Session.Event :=
  [.process 0 "ping localhost", .poll 500, .process 600 "frobnicate", .process 650 "clear", .poll 100,
   .poll 900, .process 900 "ping localhost", .poll 1150]

end TwoPings

namespace Session

variable {σ : Type}

/-! ## Polls and flushes -/

/-- What a poll takes comes to the transcript, and it is counted. -/
theorem poll_delivers (session : Session σ) (now : Moment) :
    (session.poll now).2.transcript =
        session.transcript ++ (session.taken (.poll now)).map PendingLine.text ∧
      (session.poll now).1 = (session.taken (.poll now)).length := by
  rw [taken_poll]
  exact ⟨rfl, rfl⟩

/-- **An event is in turn** when the lines that it gives are in order, and no line that waits is due later
than one of them. -/
structure InTurn (session : Session σ) (event : Event) : Prop where
  ordered : Schedule.InOrder (session.given event)
  behind : ∀ waiting ∈ session.schedule, ∀ line ∈ session.given event, waiting.due ≤ line.due

/-- Whether each event of a run is in turn when it comes. -/
def AllInTurn (session : Session σ) : List Event → Prop
  | [] => True
  | event :: rest => session.InTurn event ∧ (session.perform event).AllInTurn rest

instance (session : Session σ) (event : Event) : Decidable (session.InTurn event) :=
  decidable_of_iff
    (Schedule.InOrder (session.given event) ∧
      ∀ waiting ∈ session.schedule, ∀ line ∈ session.given event, waiting.due ≤ line.due)
    ⟨fun ⟨ordered, behind⟩ => ⟨ordered, behind⟩, fun inTurn => ⟨inTurn.ordered, inTurn.behind⟩⟩

instance decidableAllInTurn : (session : Session σ) → (events : List Event) →
    Decidable (session.AllInTurn events)
  | _, [] => .isTrue trivial
  | session, event :: rest =>
    have := decidableAllInTurn (session.perform event) rest
    inferInstanceAs (Decidable (_ ∧ _))

/-- An event in turn keeps the queue in order. -/
theorem InTurn.inOrder_perform {session : Session σ} {event : Event} (inTurn : session.InTurn event)
    (ordered : session.schedule.InOrder) : (session.perform event).schedule.InOrder := by
  have together : Schedule.InOrder (session.schedule ++ session.given event) :=
    List.pairwise_append.mpr ⟨ordered, inTurn.ordered, inTurn.behind⟩
  rw [← taken_append_schedule] at together
  exact (List.pairwise_append.mp together).2.1

/-- A run of events in turn keeps the queue in order. -/
theorem inOrder_performAll {session : Session σ} {events : List Event}
    (ordered : session.schedule.InOrder) (inTurn : session.AllInTurn events) :
    (session.performAll events).schedule.InOrder := by
  induction events generalizing session with
  | nil => exact ordered
  | cons event rest ih => exact ih (inTurn.1.inOrder_perform ordered) inTurn.2

/-- **When polls miss nothing.** In the session that a run has reached, a poll catches up with its moment,
whatever the moment is, exactly when the queue is in order. It is so when the run began with a queue in
order and each of its events was in turn. -/
theorem poll_caughtUp_iff (session : Session σ) (events : List Event) :
    let reached := session.performAll events
    ((∀ now, (reached.poll now).2.schedule.CaughtUp now) ↔ reached.schedule.InOrder) ∧
      (session.schedule.InOrder → session.AllInTurn events → reached.schedule.InOrder) :=
  ⟨Schedule.caughtUp_polls_iff, inOrder_performAll⟩

open TwoPings in
/-- Commands that do not overlap are in turn, and no poll misses a line. -/
theorem poll_caughtUp_of_pings :
    session.schedule.InOrder ∧ session.AllInTurn apart ∧
      ∀ now, ((session.performAll apart).poll now).2.schedule.CaughtUp now := by
  have ordered : session.schedule.InOrder := by decide
  have inTurn : session.AllInTurn apart := by decide +kernel
  obtain ⟨caughtUp, kept⟩ := poll_caughtUp_iff session apart
  exact ⟨ordered, inTurn, caughtUp.mpr (kept ordered inTurn)⟩

open TwoPings in
/-- **A poll misses a due line** when two commands overlap. At the moment 300 it brings the first reply to the
first command and stops at the next one, which is due at 400. The reply to the second command that was due
at 250 stays behind it, and the session says that nothing is due before 400. -/
theorem poll_misses_due_line :
    let polled := (session.performAll overlapping).poll 300
    polled.1 = 1 ∧ polled.2.nextDue? = some 400 ∧ (∃ line ∈ polled.2.schedule, line.due = 250) ∧
      ¬ polled.2.schedule.CaughtUp 300 := by
  intro polled
  have waits : ∃ line ∈ polled.2.schedule, line.due = 250 := by decide +kernel
  refine ⟨by decide +kernel, by decide +kernel, waits, fun caughtUp => ?_⟩
  obtain ⟨line, mem, due⟩ := waits
  have later := caughtUp.later line mem
  rw [due] at later
  exact absurd later (by decide)

end Session

end ConfinedShell
