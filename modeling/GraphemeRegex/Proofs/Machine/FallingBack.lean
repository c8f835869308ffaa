import GraphemeRegex.Proofs.Machine.Discipline
import GraphemeRegex.Proofs.Machine.Fitting

/-! # Falling back — runs that come back to the stack below them

Code that keeps to its shapes does not reach below what lay on the stack when it was entered, but by
falling back to it. So a run that comes back to a stack comes back to all stacks that lie between
this one and its own, one after the other.

* `Machine.FallsBack`: a run falls back to a stack, sooner or later.
* `Machine.FallsBack.step`: it does so after its next step.
* `Machine.FallsBack.to_stack`: it falls back to the stacks that lie in between.
-/

namespace GraphemeRegex

namespace Machine

variable {m : Machine} {S T : CheckpointStack} {s : State}

/-- A run that goes on with a step goes on, sooner or later, as a failure on top of `S` does. -/
inductive FallsBack (m : Machine) (S : CheckpointStack) : Step → Prop where
  | bottom : m.FallsBack S S.fallBack
  | next {s : State} (later : m.FallsBack S (m.step s)) : m.FallsBack S (.next s)

namespace FallsBack

/-- As long as the stack is still there, it has not been fallen back to. -/
theorem step (h : m.FallsBack S (.next s)) (above : S.entries <:+ s.stack.entries) :
    m.FallsBack S (m.step s) := by
  generalize begins : Step.next s = step at h
  cases h with
  | bottom =>
    have shorter := CheckpointStack.length_lt_of_fallBack begins.symm
    exact absurd above.length_le (Nat.not_le.2 shorter)
  | next later =>
    cases begins
    exact later

theorem fallBack_eq_halt {r : Option Position} (h : m.FallsBack S (.halt r)) :
    S.fallBack = .halt r := by
  generalize ends : Step.halt r = step at h
  cases h with
  | bottom => rfl
  | next => cases ends

/-- A run above a stack in code that is never left comes back to what lies below the stack by
falling back to the stack first. -/
theorem to_stack {K : Shaping} {start : Position}
    (closed : ∀ ip σ, K ip σ → ∃ i, m.program.code[ip]? = some i ∧ m.program.Follows K ip σ i)
    (below : S.entries <:+ T.entries) (fits : s.Fits m start.Reaches) (obeys : s.Obeys K T.entries)
    (h : m.FallsBack S (.next s)) : m.FallsBack S T.fallBack := by
  generalize begins : Step.next s = step at h
  induction h generalizing s with
  | bottom =>
    obtain ⟨σ, _, shaped⟩ := obeys
    have shorter := CheckpointStack.length_lt_of_fallBack begins.symm
    exact absurd (below.trans shaped.suffix).length_le (Nat.not_le.2 shorter)
  | @next t later ih =>
    obtain rfl : s = t := Step.next.inj begins
    have step := obeys.step closed fits.sized
    cases result : m.step s with
    | next t =>
      rw [result] at step later
      rcases step with above | bottom
      · exact ih (fits.onward result) above result.symm
      · rw [bottom, CheckpointStack.ofList_entries] at later
        exact later
    | halt r =>
      rw [result] at later
      obtain ⟨rfl, _⟩ := CheckpointStack.fallBack_eq_halt later.fallBack_eq_halt
      -- a run that ends has nothing to resume from, so there is nothing in between, either
      rcases halt_of_step result with ⟨_, nothing⟩ | ⟨_, other⟩
      · obtain ⟨σ, _, shaped⟩ := obeys
        have nothing' := shaped.unwind_base nothing
        rw [CheckpointStack.ofList_entries] at nothing'
        rw [CheckpointStack.fallBack_of_unwind nothing']
        exact later
      · cases other
    | fault f =>
      rw [result] at step
      exact absurd step id

end FallsBack

end Machine

end GraphemeRegex
