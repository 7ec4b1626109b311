import ConfinedShell.Mission
import Mathlib.Data.List.Forall2
import Mathlib.Order.Bounds.Basic

/-!
# How missions advance

A tracker hears lines, and now and then the dialogue that waits is taken from it. Lines **accomplish** stages when some
of them, one for each stage and in the order of the stages, begin with their openings; others may stand in between
(`Stage.Accomplished`). There can be several ways to choose these lines, since one line may begin with the openings of
several stages.

**The tracker is never behind the best choice** although it looks at each line once, and only at the stage that is the
next. If one more line helps, some choice has it for the last stage, so that the choice got one stage less far without
it (`Stage.accomplished_concat_iff`). So the greatest number of stages grows by one when the line does the next stage,
and else it stays (`Stage.Furthest.next`, `Stage.Furthest.stay`), which is what the tracker does. A course is
**abreast** when the tracker has done that many stages and has told their dialogues; each event keeps it so
(`Tracker.Course.Abreast.perform`), and so do any events (`Tracker.stages_done_greedily`).
-/

set_option autoImplicit false

namespace ConfinedShell

namespace Stage

/-- **A line does a stage** when it begins with the stage's opening. -/
def DoneBy (stage : Stage) (line : String) : Prop :=
  stage.opening.toList <+: line.toList

/-- **Lines accomplish stages** when some of the lines, in their order, do the stages, each line one of them. -/
def Accomplished (stages : List Stage) (lines : List String) : Prop :=
  ∃ doing : List String, doing.Sublist lines ∧ List.Forall₂ DoneBy stages doing

theorem accomplished_nil (lines : List String) : Accomplished [] lines :=
  ⟨[], List.nil_sublist lines, .nil⟩

/-- Only no stage at all is accomplished without lines. -/
theorem accomplished_of_no_lines {stages : List Stage} (accomplished : Accomplished stages []) : stages = [] := by
  obtain ⟨doing, among, does⟩ := accomplished
  obtain rfl := List.sublist_nil.mp among
  exact List.forall₂_nil_right_iff.mp does

/-- Stages that are accomplished stay so. -/
theorem Accomplished.append {stages : List Stage} {lines : List String} (accomplished : Accomplished stages lines)
    (more : List String) : Accomplished stages (lines ++ more) := by
  obtain ⟨doing, among, does⟩ := accomplished
  exact ⟨doing, among.trans (List.sublist_append_left lines more), does⟩

/-- **One more line** accomplishes stages that were accomplished before, or it does the last of them. -/
theorem accomplished_concat_iff {stages : List Stage} {stage : Stage} {lines : List String} {line : String} :
    Accomplished (stages ++ [stage]) (lines ++ [line]) ↔
      Accomplished (stages ++ [stage]) lines ∨ Accomplished stages lines ∧ stage.DoneBy line := by
  constructor
  · rintro ⟨doing, among, does⟩
    obtain ⟨before, last, rfl, amongLines, amongLast⟩ := List.sublist_append_iff.mp among
    -- The choice leaves the new line out, or has it at its end.
    rcases List.sublist_singleton.mp amongLast with rfl | rfl
    · rw [List.append_nil] at does
      exact .inl ⟨before, amongLines, does⟩
    · rw [← List.forall₂_reverse_iff, List.reverse_append, List.reverse_append] at does
      obtain ⟨doesLast, doesBefore⟩ := List.forall₂_cons.mp does
      exact .inr ⟨⟨before, amongLines, List.forall₂_reverse_iff.mp doesBefore⟩, doesLast⟩
  · rintro (already | ⟨before, doesLast⟩)
    · exact already.append [line]
    · obtain ⟨doing, among, does⟩ := before
      exact ⟨doing ++ [line], among.append (List.Sublist.refl [line]), List.rel_append does (.cons doesLast .nil)⟩

/-- **How far lines get**: the greatest number of stages, counted from the first, that they accomplish. -/
def Furthest (stages : List Stage) (lines : List String) (count : Nat) : Prop :=
  IsGreatest {k | k ≤ stages.length ∧ Accomplished (stages.take k) lines} count

/-- Without lines no stage is accomplished. -/
theorem furthest_nil (stages : List Stage) : Furthest stages [] 0 := by
  refine ⟨⟨Nat.zero_le _, accomplished_nil []⟩, ?_⟩
  rintro k ⟨within, accomplished⟩
  have none := accomplished_of_no_lines accomplished
  rw [List.take_eq_nil_iff] at none
  rcases none with rfl | rfl
  · exact Nat.le_refl 0
  · exact within

namespace Furthest

variable {stages : List Stage} {stage : Stage} {lines : List String} {line : String} {count : Nat}

/-- **One more line leads at most one stage further**, and only when it does the next one. -/
theorem le_or_next (furthest : Furthest stages lines count) {k : Nat} (within : k ≤ stages.length)
    (accomplished : Accomplished (stages.take k) (lines ++ [line])) :
    k ≤ count ∨ k = count + 1 ∧ ∃ stage, stages[count]? = some stage ∧ stage.DoneBy line := by
  cases k with
  | zero => exact .inl (Nat.zero_le count)
  | succ j =>
    have inside : stages[j]? = some stages[j] := List.getElem?_eq_getElem within
    have split : stages.take (j + 1) = stages.take j ++ [stages[j]] := by
      rw [List.take_add_one, inside]
      rfl
    rw [split] at accomplished
    rcases accomplished_concat_iff.mp accomplished with already | ⟨before, doesLast⟩
    · rw [← split] at already
      exact .inl (furthest.2 ⟨within, already⟩)
    · -- Without the line the choice gets to `j`, which is at most `count`; the line leads further only if it is equal.
      have le : j ≤ count := furthest.2 ⟨Nat.le_of_succ_le within, before⟩
      rcases Nat.lt_or_eq_of_le le with less | rfl
      · exact .inl less
      · exact .inr ⟨rfl, _, inside, doesLast⟩

/-- A line that does the next stage leads one stage further, -/
theorem next (furthest : Furthest stages lines count) (isNext : stages[count]? = some stage)
    (does : stage.DoneBy line) : Furthest stages (lines ++ [line]) (count + 1) := by
  refine ⟨⟨(List.getElem?_eq_some_iff.mp isNext).1, ?_⟩, ?_⟩
  · rw [List.take_add_one, isNext]
    exact accomplished_concat_iff.mpr (.inr ⟨furthest.1.2, does⟩)
  · rintro k ⟨within, accomplished⟩
    rcases furthest.le_or_next within accomplished with le | ⟨rfl, -⟩
    · exact Nat.le_succ_of_le le
    · exact Nat.le_refl _

/-- and any other line leads no further. -/
theorem stay (furthest : Furthest stages lines count)
    (other : ∀ stage, stages[count]? = some stage → ¬ stage.DoneBy line) :
    Furthest stages (lines ++ [line]) count := by
  refine ⟨⟨furthest.1.1, furthest.1.2.append [line]⟩, ?_⟩
  rintro k ⟨within, accomplished⟩
  rcases furthest.le_or_next within accomplished with le | ⟨-, stage, isNext, does⟩
  · exact le
  · exact absurd does (other stage isNext)

end Furthest

end Stage

namespace Tracker

/-- **What a line does to a tracker**: it does the next stage and leaves its dialogue, or nothing. -/
theorem onLine_cases (tracker : Tracker) (line : String) :
    (∃ stage, tracker.stages[tracker.done]? = some stage ∧ stage.DoneBy line ∧
        tracker.onLine line =
          { tracker with done := tracker.done + 1, messages := tracker.messages ++ [stage.dialogue] }) ∨
      (∀ stage, tracker.stages[tracker.done]? = some stage → ¬ stage.DoneBy line) ∧
        tracker.onLine line = tracker := by
  unfold onLine
  cases next : tracker.stages[tracker.done]? with
  | none => exact .inr ⟨nofun, rfl⟩
  | some stage =>
    dsimp only
    split
    · next begins => exact .inl ⟨stage, rfl, List.isPrefixOf_iff_prefix.mp begins, rfl⟩
    · next other =>
      refine .inr ⟨?_, rfl⟩
      rintro _ ⟨⟩ does
      exact other (List.isPrefixOf_iff_prefix.mpr does)

/-! ## Events -/

/-- What can happen to a tracker: it hears a line, or the dialogue that waits is taken. -/
inductive Event where
  | line (text : String)
  | take

/-- The line that is heard in an event. -/
def Event.line? : Event → Option String
  | line text => some text
  | take => none

/-- **The lines that are heard** in events, in order. -/
def heard (events : List Event) : List String :=
  events.filterMap Event.line?

/-- **A tracker in use**, with the dialogue that was taken from it so far. -/
structure Course where
  tracker : Tracker
  taken : List String := []

namespace Course

/-- A tracker that has heard nothing. -/
def start (stages : List Stage) : Course where
  tracker := { stages }

/-- The course after an event. -/
def perform (course : Course) : Event → Course
  | .line text => { course with tracker := course.tracker.onLine text }
  | .take => ⟨course.tracker.takeMessages.2, course.taken ++ course.tracker.takeMessages.1⟩

/-- The course after events. -/
def performAll (course : Course) (events : List Event) : Course :=
  events.foldl perform course

/-- **A course is abreast of lines** when it has got as far as they get, and has told the dialogues of the stages that
are done, each once and in order. -/
structure Abreast (course : Course) (stages : List Stage) (lines : List String) : Prop where
  stages_eq : course.tracker.stages = stages
  furthest : Stage.Furthest stages lines course.tracker.done
  told : course.taken ++ course.tracker.messages = (stages.take course.tracker.done).map Stage.dialogue

variable {course : Course} {stages : List Stage} {lines : List String}

theorem abreast_start (stages : List Stage) : (start stages).Abreast stages [] where
  stages_eq := rfl
  furthest := Stage.furthest_nil stages
  told := rfl

/-- **An event keeps a course abreast.** -/
theorem Abreast.perform (abreast : course.Abreast stages lines) (event : Event) :
    (course.perform event).Abreast stages (lines ++ event.line?.toList) := by
  obtain ⟨rfl, furthest, told⟩ := abreast
  cases event with
  | line text =>
    show Abreast ⟨course.tracker.onLine text, course.taken⟩ course.tracker.stages (lines ++ [text])
    rcases course.tracker.onLine_cases text with ⟨stage, isNext, does, result⟩ | ⟨other, result⟩
    · rw [result]
      refine ⟨rfl, furthest.next isNext does, ?_⟩
      show course.taken ++ (course.tracker.messages ++ [stage.dialogue]) = _
      rw [← List.append_assoc, told, List.take_add_one, isNext, List.map_append]
      rfl
    · rw [result]
      exact ⟨rfl, furthest.stay other, told⟩
  | take =>
    rw [Event.line?, Option.toList_none, List.append_nil]
    refine ⟨rfl, furthest, ?_⟩
    show course.taken ++ course.tracker.messages ++ [] = _
    rw [List.append_nil, told]
    rfl

/-- **Events keep a course abreast.** -/
theorem Abreast.performAll (abreast : course.Abreast stages lines) (events : List Event) :
    (course.performAll events).Abreast stages (lines ++ heard events) := by
  induction events generalizing course lines with
  | nil =>
    rw [heard, List.filterMap_nil, List.append_nil]
    exact abreast
  | cons event rest ih =>
    have after := ih (abreast.perform event)
    have spelt : heard (event :: rest) = event.line?.toList ++ heard rest := by
      cases event <;> rfl
    rwa [spelt, ← List.append_assoc]

/-- A course is complete once lines accomplish all of its stages. -/
theorem Abreast.isComplete_iff (abreast : course.Abreast stages lines) :
    course.tracker.isComplete = true ↔ Stage.Accomplished stages lines := by
  obtain ⟨rfl, furthest, -⟩ := abreast
  unfold isComplete
  rw [decide_eq_true_eq]
  constructor
  · intro complete
    have all := furthest.1.2
    rwa [List.take_of_length_le complete] at all
  · intro accomplished
    apply furthest.2
    refine ⟨Nat.le_refl _, ?_⟩
    rwa [List.take_length]

/-- No event makes a stage undone. -/
theorem done_le_perform (course : Course) (event : Event) :
    course.tracker.done ≤ (course.perform event).tracker.done := by
  cases event with
  | line text =>
    show course.tracker.done ≤ (course.tracker.onLine text).done
    rcases course.tracker.onLine_cases text with ⟨stage, -, -, result⟩ | ⟨-, result⟩
    · rw [result]
      exact Nat.le_succ _
    · rw [result]
  | take => exact Nat.le_refl _

theorem done_le_performAll (course : Course) (events : List Event) :
    course.tracker.done ≤ (course.performAll events).tracker.done := by
  induction events generalizing course with
  | nil => exact Nat.le_refl _
  | cons event rest ih => exact (course.done_le_perform event).trans (ih _)

end Course

/-- **Missions advance as far as they can.** Take any stages and any events. The number of stages that are done is the
greatest number, counted from the first, that the lines heard so far accomplish: so many of these lines, in their order,
begin with the openings of the stages, and no choice of lines gets further. The dialogues that were taken and then
those that wait are the dialogues of these stages, each once and in order. The number never exceeds that of the stages,
and whatever happens later, it never gets smaller. The missions are complete exactly when the lines accomplish all
stages. -/
theorem stages_done_greedily (stages : List Stage) (events later : List Event) :
    let course := (Course.start stages).performAll events
    IsGreatest {k | k ≤ stages.length ∧ Stage.Accomplished (stages.take k) (heard events)} course.tracker.done ∧
      course.taken ++ course.tracker.messages = (stages.take course.tracker.done).map Stage.dialogue ∧
      course.tracker.done ≤ stages.length ∧
      course.tracker.done ≤ ((Course.start stages).performAll (events ++ later)).tracker.done ∧
      (course.tracker.isComplete = true ↔ Stage.Accomplished stages (heard events)) := by
  intro course
  have abreast : course.Abreast stages (heard events) := (Course.abreast_start stages).performAll events
  refine ⟨abreast.furthest, abreast.told, abreast.furthest.1.1, ?_, abreast.isComplete_iff⟩
  have after : (Course.start stages).performAll (events ++ later) = course.performAll later := List.foldl_append
  rw [after]
  exact course.done_le_performAll later

/-- A line that begins with the openings of two stages does only one of them, and a stage that has its turn later does
not get it earlier. -/
example :
    let course := (Course.start [⟨"l", "first"⟩, ⟨"ls", "second"⟩, ⟨"cd", "third"⟩]).performAll
      [.line "cd /", .line "ls -l", .take, .line "ls"]
    course.tracker.done = 2 ∧ course.taken = ["first"] ∧ course.tracker.messages = ["second"] := by
  decide

end Tracker

end ConfinedShell
