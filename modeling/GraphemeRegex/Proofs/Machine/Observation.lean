import GraphemeRegex.Machine.Trace

/-! # Observation — a traced run is the run

The events of a step are read off the state before it and change nothing. What ends a run with an
answer is also its last event, and no other event says so.

* `Event.verdict`, `Event.IsVerdict`: the events that end a run.
* `Tells`: what events say of the outcome.
* `Machine.fits_step`: the events of a step fit what it leads to.
* `Machine.trace_spec`, `Machine.traceAt_spec`: a trace has the outcome of the run, and its events
  tell it.
-/

namespace GraphemeRegex

/-! ## Verdicts -/

namespace Event

/-- The event that ends a run with an answer. -/
def verdict : Option Position → Event
  | some q => .accepted q.offset
  | none => .noMatch

/-- Whether the event ends a run. -/
def isVerdict : Event → Bool
  | .accepted _ | .noMatch => true
  | _ => false

theorem isVerdict_verdict (result : Option Position) : (verdict result).isVerdict = true := by
  cases result <;> rfl

end Event

/-- No event of the list ends a run. -/
def Quiet (events : List Event) : Prop :=
  ∀ e ∈ events, e.isVerdict = false

theorem quiet_nil : Quiet [] := List.forall_mem_nil _

theorem quiet_singleton {e : Event} (h : e.isVerdict = false) : Quiet [e] :=
  List.forall_mem_singleton.2 h

/-- Quiet events stay quiet behind others. -/
theorem Quiet.append {first second : List Event} (h : Quiet first) (h' : Quiet second) :
    Quiet (first ++ second) :=
  List.forall_mem_append.2 ⟨h, h'⟩

/-- The answer is the last event, and nothing else is said of it. -/
inductive Tells : List Event → Outcome → Prop where
  | answer {before : List Event} (quiet : Quiet before) (result : Option Position) :
    Tells (before ++ [Event.verdict result]) (.ok result)
  | error {events : List Event} (quiet : Quiet events) (reason : RunError) :
    Tells events (.error reason)

/-- What comes before does not matter to the answer if it is quiet. -/
theorem Tells.prepend {before events : List Event} {outcome : Outcome} (quiet : Quiet before)
    (h : Tells events outcome) : Tells (before ++ events) outcome := by
  cases h with
  | answer quiet' result =>
    rw [← List.append_assoc]
    exact .answer (quiet.append quiet') result
  | error quiet' reason => exact .error (quiet.append quiet') reason

/-- The last of the events that pass a test tells the outcome if the test keeps what ends a run. -/
theorem Tells.getLast?_filter {events : List Event} {outcome : Outcome} (h : Tells events outcome)
    {test : Event → Bool} (kept : ∀ e, e.isVerdict = true → test e = true) {v : Event}
    (verdict : v.isVerdict = true) :
    (events.filter test).getLast? = some v ↔
      ∃ result, outcome = .ok result ∧ Event.verdict result = v := by
  cases h with
  | @answer before quiet result =>
    -- the answer passes the test and stands last
    have last : List.filter test [Event.verdict result] = [Event.verdict result] :=
      List.filter_cons_of_pos (kept _ (Event.isVerdict_verdict result))
    rw [List.filter_append, last, List.getLast?_concat]
    constructor
    · rintro ⟨⟩
      exact ⟨result, rfl, rfl⟩
    · rintro ⟨result', ⟨⟩, rfl⟩
      rfl
  | error quiet reason =>
    constructor
    · -- no event of a run that ends with an error is an answer
      intro last
      have mem := (List.mem_filter.1 (List.mem_of_getLast? last)).1
      rw [quiet v mem] at verdict
      cases verdict
    · rintro ⟨result, outcome, _⟩
      cases outcome

/-! ## One step -/

/-- The events fit what a step leads to. -/
def Step.Fits (events : List Event) : Step → Prop
  | .next _ => Quiet events
  | .halt result => Tells events (.ok result)
  | .fault f => Tells events (.error (.machine f))

/-- Quiet events may be told in front of those of a step. -/
theorem Step.Fits.prepend {before events : List Event} {step : Step} (quiet : Quiet before)
    (h : step.Fits events) : step.Fits (before ++ events) := by
  cases step with
  | next => exact quiet.append h
  | halt | fault => exact Tells.prepend quiet h

namespace State

variable (s : State)

/-- Backtracking is told by one event: the place where the run goes on, or that there is no
match. -/
theorem fits_backtrack : s.backtrack.Fits [s.backtrackEvent] := by
  unfold backtrack backtrackEvent
  cases s.stack.unwind with
  | none => exact Tells.answer quiet_nil none
  | some found => exact quiet_singleton rfl

/-- A failure is told before the backtracking that comes of it. -/
theorem fits_reject : s.backtrack.Fits s.rejectEvents := by
  have quiet : Quiet [.failed s.pos.offset] := quiet_singleton rfl
  exact s.fits_backtrack.prepend quiet

/-- What is consumed is told, and so is that nothing was. -/
theorem fits_afterConsuming (taken : Option (Text × Position)) :
    (s.afterConsuming taken).Fits (s.consumeEvents taken) := by
  cases taken with
  | none => exact s.fits_reject
  | some taken => exact quiet_singleton rfl

/-- A cut without a fence is a fault and has no event. -/
theorem fits_cut (rewind : Bool) : (s.cut rewind).Fits (s.cutEvents rewind) := by
  unfold cut cutEvents
  cases s.stack.cut? with
  | none => exact Tells.error quiet_nil _
  | some found => exact quiet_singleton rfl

/-- Registers have no events of their own. -/
theorem fits_setMark (r : MarkId) (value : Option Nat) : (s.setMark r value).Fits [] := by
  unfold setMark
  split
  · exact quiet_nil
  · exact Tells.error quiet_nil _

end State

namespace Machine

variable (m : Machine) (s : State)

/-- That an instruction comes next is no answer. -/
theorem quiet_fetchEvents : Quiet (m.fetchEvents s) := by
  unfold fetchEvents
  cases m.program.code[s.ip]? with
  | none => exact quiet_nil
  | some i => exact quiet_singleton rfl

/-- For each instruction, its events and what it leads to. -/
theorem fits_execute (i : Instruction Nat) : (m.execute s i).Fits (m.effectEvents s i) := by
  cases i with
  | advance | matchText | consume => exact s.fits_afterConsuming _
  | matchString string level =>
    unfold execute effectEvents
    by_cases known : string.index < m.program.strings.size
    · simp only [if_pos known]
      exact s.fits_afterConsuming _
    · simp only [if_neg known]
      exact Tells.error quiet_nil _
  | save | savePlaceholder | split | fence => exact quiet_singleton rfl
  | cut rewind => exact s.fits_cut rewind
  | fail => exact s.fits_backtrack
  | accept =>
    unfold execute effectEvents
    by_cases accepted : m.acceptsAt s.pos = true
    · simp only [if_pos accepted]
      exact Tells.answer quiet_nil (some s.pos)
    · simp only [if_neg accepted]
      exact s.fits_reject
  -- the others have no events, and end a run by faults at most
  | branch => exact quiet_nil
  | condBranch target counter =>
    show (s.countDown target counter).Fits []
    unfold State.countDown
    split
    · exact Tells.error quiet_nil _
    · exact quiet_nil
    · exact quiet_nil
  | clear =>
    show s.clear.Fits []
    unfold State.clear
    split
    · exact Tells.error quiet_nil _
    · exact quiet_nil
  | reset counter =>
    show (m.resetCounter s counter).Fits []
    unfold resetCounter
    split
    · exact Tells.error quiet_nil _
    · exact quiet_nil
  | mark r => exact s.fits_setMark r _
  | unmark r => exact s.fits_setMark r _
  | checkProgress target r =>
    show (s.checkProgress target r).Fits []
    unfold State.checkProgress
    split
    · exact Tells.error quiet_nil _
    · exact quiet_nil

/-- One step: the instruction, then what comes of it. -/
theorem fits_step : (m.step s).Fits (m.events s) := by
  unfold step events
  cases m.program.code[s.ip]? with
  | none => exact Tells.error ((m.quiet_fetchEvents s).append quiet_nil) _
  | some i => exact (m.fits_execute s i).prepend (m.quiet_fetchEvents s)

/-! ## A run -/

/-- A traced run adds events that tell its outcome, which is that of the run. -/
theorem traceFrom_spec (limits : Limits) (fuel : Nat) (seen : Array Event) :
    ∃ events : List Event,
      m.traceFrom limits fuel s seen = (seen ++ events, m.runFrom limits fuel s) ∧
        Tells events (m.runFrom limits fuel s) := by
  induction fuel generalizing s seen with
  | zero => exact ⟨[], by rw [Array.appendList_nil]; rfl, .error quiet_nil _⟩
  | succ fuel ih =>
    rw [traceFrom, runFrom]
    by_cases full : m.overflows limits s = true
    · rw [if_pos full, if_pos full]
      -- a limit is hit: the instruction is told and not executed
      exact ⟨m.fetchEvents s, rfl, .error (m.quiet_fetchEvents s) _⟩
    · rw [if_neg full, if_neg full]
      have fits := m.fits_step s
      cases result : m.step s with
      | next t =>
        rw [result] at fits
        -- the events of the step stand in front of those of the rest
        obtain ⟨events, trace, tells⟩ := ih t (seen ++ m.events s)
        refine ⟨m.events s ++ events, ?_, tells.prepend fits⟩
        show m.traceFrom limits fuel t (seen ++ m.events s) = _
        rw [trace]
        congr 1
        apply Array.toList_inj.1
        simp only [Array.toList_appendList, List.append_assoc]
      | halt result' =>
        rw [result] at fits
        exact ⟨m.events s, rfl, fits⟩
      | fault f =>
        rw [result] at fits
        exact ⟨m.events s, rfl, fits⟩

/-- A trace from a position. -/
theorem trace_spec (limits : Limits) (start : Position) :
    (m.trace limits start).2 = m.run limits start ∧
      Tells (m.trace limits start).1 (m.run limits start) := by
  obtain ⟨events, trace, tells⟩ :=
    m.traceFrom_spec (.initial m.program start) limits limits.fuel #[]
  have shown : m.trace limits start = (events, m.run limits start) := by
    rw [Machine.trace, trace]
    show (((#[] : Array Event) ++ events).toList, _) = _
    rw [Array.toList_appendList, List.nil_append, run]
  rw [shown]
  exact ⟨rfl, tells⟩

/-- A trace from an offset; if it is none of the subject, there is nothing to tell. -/
theorem traceAt_spec (limits : Limits) (start : Nat) :
    (m.traceAt limits start).2 = m.runAt limits start ∧
      Tells (m.traceAt limits start).1 (m.runAt limits start) := by
  unfold traceAt runAt
  cases m.subject.positionAt? start with
  | none => exact ⟨rfl, .error quiet_nil _⟩
  | some p => exact m.trace_spec limits p

end Machine

end GraphemeRegex
