import ConfinedShell.Proofs.Chronicle
import ConfinedShell.Proofs.Pages

/-!
# Waiting

After a line the terminal waits until the scheduled line at the front is due, asks for those that are due, shows them,
and begins again. Each round takes a line at least (`Schedule.length_polls`), so the wait ends, after at most as many
rounds as lines waited, and **to wait is to flush** (`Terminal.session_wait`): in the end the transcript has gained the
lines that waited, in order.

Of an event the transcript keeps a part and appends entries behind it (`Session.retained`, `Session.appended`). What the
wait writes are the entries that its polls append (`Terminal.entries_waitWrites`).
-/

set_option autoImplicit false

namespace ConfinedShell

/-! ## Polls until nothing waits -/

namespace Schedule

/-- The moments of polls, each when the line at the front is due and the time has run on, at most `rounds` of them. -/
def polls : Nat → (Nat → Nat) → Schedule → Moment → List Moment
  | 0, _, _, _ => []
  | rounds + 1, lags, queue, now =>
    match queue.nextDue? with
    | none => []
    | some due =>
      let woken := max now due + lags 0
      woken :: polls rounds (fun n => lags (n + 1)) (queue.poll woken).2 woken

/-- One wakes when the line at the front is due, or later. -/
theorem due_le_woken (now due : Moment) (lag : Nat) : due ≤ max now due + lag :=
  Int.le_trans (Int.le_max_right now due) (Int.le_add_of_nonneg_right (Int.natCast_nonneg lag))

end Schedule

/-! ## What is appended to the transcript -/

namespace Session

variable {σ : Type}

/-- What an event leaves of the transcript before it appends anything; the echo of a line counts to that. -/
def retained (session : Session σ) : Event → List String
  | .process now line =>
    match session.response? now line with
    | none => session.transcript
    | some (.ok .clear) => []
    | some _ => session.transcript ++ [echoMark ++ Text.trim line]
  | .poll _ | .flush => session.transcript
  | .clear => []

/-- **The entries that an event appends to the transcript**, other than the echo of a line. -/
def appended (session : Session σ) : Event → List String
  | .process now line =>
    match session.response? now line with
    | none => []
    | some (.error report) => [report]
    | some (.ok output) => output.shown
  | .poll now => (session.taken (.poll now)).map PendingLine.text
  | .flush => (session.taken .flush).map PendingLine.text
  | .clear => []

/-- The entries that are appended over a run. -/
def appendedOver (session : Session σ) : List Event → List String
  | [] => []
  | event :: rest => session.appended event ++ (session.perform event).appendedOver rest

/-- The transcript after an event. -/
theorem transcript_perform (session : Session σ) (event : Event) :
    (session.perform event).transcript = session.retained event ++ session.appended event := by
  cases event with
  | process now line =>
    rw [perform, transcript_process, retained, appended]
    cases session.response? now line with
    | none => exact (List.append_nil _).symm
    | some answer =>
      cases answer with
      | error report => exact (List.append_assoc _ [_] [_]).symm
      | ok output =>
        cases output with
        | clear => rfl
        | _ => exact (List.append_assoc _ [_] _).symm
  | poll now => exact (session.poll_delivers now).1
  | flush =>
    rw [appended, taken_flush]
    rfl
  | clear => rfl

/-- Only a line that clears the screen has it noticed that it was cleared. -/
theorem cleared_process {session : Session σ} (uncleared : session.cleared = false) (now : Moment)
    (line : String) :
    (session.process now line).cleared =
      match session.response? now line with
      | some (.ok .clear) => true
      | _ => false := by
  cases response : session.response? now line with
  | none => rw [process_of_unanswered response, uncleared]
  | some answer =>
    obtain ⟨scene, audience, processed⟩ := process_of_answered response
    rw [processed]
    cases answer with
    | error report => exact uncleared
    | ok output =>
      cases output with
      | clear => rfl
      | _ => exact uncleared

/-- A line is echoed exactly when it is answered. -/
theorem isSome_response? (session : Session σ) (now : Moment) (line : String) :
    (session.response? now line).isSome = (tokenize (Text.trim line)).isSome := by
  rw [Bool.eq_iff_iff, Option.isSome_iff_ne_none, Option.isSome_iff_ne_none, ne_eq, ne_eq,
    response?_eq_none, tokenize_trim_eq_none]

theorem perform_process (session : Session σ) (now : Moment) (line : String) :
    session.perform (.process now line) = session.process now line :=
  rfl

theorem performAll_cons (session : Session σ) (event : Event) (rest : List Event) :
    session.performAll (event :: rest) = (session.perform event).performAll rest :=
  rfl

theorem appendedOver_cons (session : Session σ) (event : Event) (rest : List Event) :
    session.appendedOver (event :: rest) =
      session.appended event ++ (session.perform event).appendedOver rest :=
  rfl

theorem transcript_flush (session : Session σ) :
    session.flush.transcript = session.transcript ++ session.schedule.map PendingLine.text :=
  rfl

/-- A flush does what is left to it after a poll. -/
theorem flush_poll (session : Session σ) (now : Moment) : (session.poll now).2.flush = session.flush := by
  have texts : (session.schedule.poll now).1.map PendingLine.text ++
      (session.schedule.poll now).2.map PendingLine.text = session.schedule.map PendingLine.text := by
    rw [← List.map_append, Schedule.poll_append]
  simp only [poll, flush, addLines, List.append_assoc, texts]

/-- A flush does nothing when no line waits. -/
theorem flush_of_drained {session : Session σ} (drained : session.schedule = []) :
    session.flush = session := by
  simp only [flush, addLines, drained, List.map_nil, List.append_nil]
  rw [← drained]

/-- **Polls until nothing waits are a flush**, when they may be as many as the lines. -/
theorem performAll_polls (rounds : Nat) (lags : Nat → Nat) (session : Session σ) (now : Moment)
    (enough : session.schedule.length ≤ rounds) :
    session.performAll ((session.schedule.polls rounds lags now).map .poll) = session.flush ∧
      session.appendedOver ((session.schedule.polls rounds lags now).map .poll) =
        session.schedule.map PendingLine.text := by
  induction rounds generalizing lags session now with
  | zero =>
    have drained : session.schedule = [] := List.eq_nil_of_length_eq_zero (Nat.le_zero.mp enough)
    rw [flush_of_drained drained, drained]
    exact ⟨rfl, rfl⟩
  | succ rounds ih =>
    rw [Schedule.polls]
    split
    · next never =>
      have drained : session.schedule = [] := Schedule.nextDue?_eq_none.mp never
      rw [flush_of_drained drained, drained]
      exact ⟨rfl, rfl⟩
    · next due next =>
      have shorter := Schedule.length_poll_lt next (Schedule.due_le_woken now due (lags 0))
      dsimp only
      generalize max now due + (lags 0 : Moment) = woken at shorter ⊢
      obtain ⟨flushed, delivered⟩ := ih (fun n => lags (n + 1)) (session.poll woken).2 woken
        (Nat.le_of_lt_succ (Nat.lt_of_lt_of_le shorter enough))
      rw [flush_poll] at flushed
      refine ⟨flushed, ?_⟩
      calc session.appendedOver ((woken :: Schedule.polls rounds _ _ _).map .poll)
        _ = (session.schedule.poll woken).1.map PendingLine.text ++
              (session.schedule.poll woken).2.map PendingLine.text := by
          rw [List.map_cons, appendedOver, appended, taken_poll]
          exact congrArg _ delivered
        _ = session.schedule.map PendingLine.text := by rw [← List.map_append, Schedule.poll_append]

end Session

namespace Terminal

/-! ## Waiting -/

/-- There is no round when no line waits. -/
theorem waitRounds_of_never {terminal : Terminal} (never : terminal.session.nextDue? = none)
    (rounds : Nat) : terminal.waitRounds rounds = (terminal, "") := by
  cases rounds with
  | zero => rfl
  | succ rounds => rw [waitRounds, never]

/-- A round waits for the line at the front, shows what is due then and is followed by the others. -/
theorem waitRounds_of_next {terminal : Terminal} {due : Moment}
    (next : terminal.session.nextDue? = some due) (rounds : Nat) :
    terminal.waitRounds (rounds + 1) =
      let printed := (terminal.waitedUntil due).printNew
      let rest := printed.1.waitRounds rounds
      (rest.1, printed.2 ++ rest.2) := by
  rw [waitRounds, next]

/-- Waiting polls the session, and nothing else happens to it. -/
theorem session_waitRounds (rounds : Nat) (terminal : Terminal) :
    (terminal.waitRounds rounds).1.session = terminal.session.performAll
      ((terminal.session.schedule.polls rounds terminal.lags terminal.now).map .poll) := by
  induction rounds generalizing terminal with
  | zero => rfl
  | succ rounds ih =>
    rw [Schedule.polls]
    cases next : terminal.session.nextDue? with
    | none =>
      have never : terminal.session.schedule.nextDue? = none := next
      rw [waitRounds_of_never next, never]
      rfl
    | some due =>
      have due' : terminal.session.schedule.nextDue? = some due := next
      rw [waitRounds_of_next next, due']
      exact ih _

/-- **To wait is to flush.** -/
theorem session_wait (terminal : Terminal) : terminal.wait.1.session = terminal.session.flush := by
  rw [wait, session_waitRounds]
  exact (terminal.session.performAll_polls _ _ _ (Nat.le_refl _)).1

/-- To print writes the entries that are not on the screen. -/
theorem entries_printWrites (terminal : Terminal) :
    Written.entries (terminal.printWrites.map Prod.fst) = terminal.unprinted := by
  have lines : (terminal.unprinted.map fun line => (Written.entry line, terminal)).map Prod.fst =
      terminal.unprinted.map .entry := by
    rw [List.map_map]
    rfl
  rw [printWrites, List.map_append, lines, Written.entries_append, Written.entries_map_entry]
  exact List.append_nil _

/-- When all entries are on the screen, the wait writes those that it appends, and all are again. -/
theorem entries_waitWrites (rounds : Nat) (terminal : Terminal)
    (printed : terminal.printed = terminal.session.transcript.length) :
    (terminal.waitRounds rounds).1.printed = (terminal.waitRounds rounds).1.session.transcript.length ∧
      Written.entries ((waitWrites rounds terminal).map Prod.fst) = terminal.session.appendedOver
        ((terminal.session.schedule.polls rounds terminal.lags terminal.now).map .poll) := by
  induction rounds generalizing terminal with
  | zero => exact ⟨printed, rfl⟩
  | succ rounds ih =>
    rw [waitWrites, Schedule.polls]
    cases next : terminal.session.nextDue? with
    | none =>
      have never : terminal.session.schedule.nextDue? = none := next
      rw [waitRounds_of_never next, never]
      exact ⟨printed, rfl⟩
    | some due =>
      have due' : terminal.session.schedule.nextDue? = some due := next
      have fresh : (terminal.waitedUntil due).unprinted =
          terminal.session.appended (.poll (max terminal.now due + terminal.lags 0)) := by
        have grown := (terminal.session.poll_delivers (max terminal.now due + terminal.lags 0)).1
        have same : (terminal.waitedUntil due).unprinted =
            (terminal.session.poll (max terminal.now due + terminal.lags 0)).2.transcript.drop terminal.printed := rfl
        rw [same, grown, printed, List.drop_left]
        rfl
      obtain ⟨counted, entries⟩ := ih (terminal.waitedUntil due).printNew.1 rfl
      rw [waitRounds_of_next next, due']
      refine ⟨counted, ?_⟩
      rw [List.map_append, Written.entries_append, entries_printWrites, fresh, entries]
      rfl

end Terminal

end ConfinedShell
