/-!
# Scheduled lines

Lines that are to appear later wait in a queue, in the order in which they were put in. `poll` takes
lines from the front for as long as they are due, so a line that is due stays behind one that is not.
Nothing is lost and nothing overtakes: what `poll` hands out, followed by what it leaves, is what was
there (`poll_append`).

A moment is kept in a number of fixed width, and a line can be put off beyond the last moment that there is.
Then it is not put in, and no line behind it is.
-/

set_option autoImplicit false

namespace ConfinedShell

/-- A moment of a clock that never goes back, in milliseconds. -/
abbrev Moment := Int

/-- The last moment that there is: its whole seconds are a signed number of 64 bits. -/
def lastMoment : Moment := 9223372036854775807 * 1000 + 999

/-- A line that appears `delay` milliseconds after the command that gave it has ended. -/
structure DelayedLine where
  delay : Nat
  text : String
  deriving DecidableEq

/-- A line that waits for the moment at which it is due. -/
structure PendingLine where
  due : Moment
  text : String
  deriving DecidableEq

namespace DelayedLine

/-- Whether there is a moment at which a line is due. -/
def hasMoment (now : Moment) (line : DelayedLine) : Bool :=
  now + line.delay ≤ lastMoment

/-- A line that waits for the end of its delay. -/
def since (now : Moment) (line : DelayedLine) : PendingLine :=
  ⟨now + line.delay, line.text⟩

end DelayedLine

/-- **The queue of waiting lines**, the one put in first at the front. -/
abbrev Schedule := List PendingLine

namespace Schedule

/-- The lines that are put in: those before the first one that has no moment. -/
def pending (now : Moment) (lines : List DelayedLine) : List PendingLine :=
  (lines.takeWhile (·.hasMoment now)).map (·.since now)

/-- Puts lines in whose delays run from `now`. -/
def add (queue : Schedule) (now : Moment) (lines : List DelayedLine) : Schedule :=
  queue ++ pending now lines

/-- A line is due at every moment from its own on. -/
def isDue (now : Moment) (line : PendingLine) : Bool :=
  line.due ≤ now

/-- The lines at the front that are due, and the queue without them. -/
def poll (queue : Schedule) (now : Moment) : List PendingLine × Schedule :=
  (queue.takeWhile (isDue now), queue.dropWhile (isDue now))

/-- When the line at the front is due. -/
def nextDue? (queue : Schedule) : Option Moment :=
  queue.head?.map PendingLine.due

/-- Polling splits the queue. -/
theorem poll_append (queue : Schedule) (now : Moment) :
    (queue.poll now).1 ++ (queue.poll now).2 = queue :=
  List.takeWhile_append_dropWhile

/-- Polling at a moment when the line at the front is due takes at least that one. -/
theorem length_poll_lt {queue : Schedule} {now due : Moment} (h : queue.nextDue? = some due)
    (hdue : due ≤ now) : (queue.poll now).2.length < queue.length := by
  cases queue with
  | nil => cases h
  | cons line rest =>
    obtain rfl : line.due = due := by simpa [nextDue?] using h
    have hline : isDue now line = true := by simpa [isDue] using hdue
    simp only [poll, List.dropWhile_cons, hline, if_true, List.length_cons]
    exact Nat.lt_succ_of_le (List.dropWhile_sublist _).length_le

end Schedule

end ConfinedShell
