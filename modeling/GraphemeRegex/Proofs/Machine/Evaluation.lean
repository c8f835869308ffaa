import GraphemeRegex.Machine.Run
import GraphemeRegex.Proofs.Machine.Effects

/-! # Evaluation — the answer of a run without limits

A run that is not stopped by its limits goes on until it halts. Its answer does not depend on the
limits, and there are limits that let it reach its answer.

* `Machine.Evaluates`: a run halts with an answer.
* `Machine.HaltsIn`: a run halts within a number of instructions.
* `Machine.evaluates_of_run`: a run within limits finds this answer.
* `Machine.exists_run_of_evaluates`: generous limits let a run find it.
-/

namespace GraphemeRegex

namespace Machine

variable {m : Machine} {limits : Limits} {s s' : State} {r r' : Option Position} {next : Step}

/-! ## Answers -/

/-- Without limits, a run that goes on with a step halts with an answer. -/
inductive Evaluates (m : Machine) : Step → Option Position → Prop where
  | halt (r : Option Position) : Evaluates m (.halt r) r
  | next {s : State} {r : Option Position} (later : Evaluates m (m.step s) r) :
      Evaluates m (.next s) r

/-- A run has at most one answer. -/
theorem Evaluates.unique (h : m.Evaluates next r) (h' : m.Evaluates next r') : r = r' := by
  induction h with
  | halt r =>
    cases h'
    rfl
  | next _ ih =>
    cases h' with
    | next later => exact ih later

/-- A run that goes on with a step halts within a number of instructions. -/
def HaltsIn (m : Machine) : (count : Nat) → Step → Prop
  | _, .halt _ => True
  | count + 1, .next s => m.HaltsIn count (m.step s)
  | _, _ => False

/-- One more step does no harm. -/
theorem HaltsIn.succ {count : Nat} (h : m.HaltsIn count next) : m.HaltsIn (count + 1) next := by
  induction count generalizing next with
  | zero =>
    cases next with
    | halt r => trivial
    | next s | fault f => exact absurd h id
  | succ count ih =>
    cases next with
    | halt r => trivial
    | next s => exact ih h
    | fault f => exact absurd h id

theorem HaltsIn.mono {count count' : Nat} (h : m.HaltsIn count next) (le : count ≤ count') :
    m.HaltsIn count' next := by
  induction le with
  | refl => exact h
  | step _ ih => exact ih.succ

/-- An answer is reached after some number of steps. -/
theorem Evaluates.exists_haltsIn (h : m.Evaluates next r) : ∃ count, m.HaltsIn count next := by
  induction h with
  | halt r => exact ⟨0, trivial⟩
  | next _ ih =>
    obtain ⟨count, halts⟩ := ih
    exact ⟨count + 1, halts⟩

/-! ## Runs within limits -/

/-- By induction on the fuel: whoever is stopped by nothing halts. -/
theorem evaluates_of_runFrom {fuel : Nat} (h : m.runFrom limits fuel s = .ok r) :
    m.Evaluates (.next s) r := by
  induction fuel generalizing s with
  | zero => cases h
  | succ fuel ih =>
    rw [runFrom] at h
    split at h
    · cases h
    · refine .next ?_
      split at h
      · rename_i s' step
        rw [step]
        exact ih h
      · rename_i result step
        rw [step]
        cases h
        exact .halt _
      · cases h

/-- A run within limits that has an answer has the one of the run without limits. -/
theorem evaluates_of_run {start : Position} (h : m.run limits start = .ok r) :
    m.Evaluates (.next (.initial m.program start)) r :=
  evaluates_of_runFrom h

/-! ## Generous limits -/

/-- A stack is at least as deep as what is left of it. -/
theorem depth_le_of_suffix {S T : CheckpointStack} (h : T.entries <:+ S.entries) :
    T.depth ≤ S.depth := by
  rw [S.depth_eq, T.depth_eq]
  exact h.length_le

/-- A step adds at most one checkpoint. -/
theorem depth_le_of_step (h : m.step s = .next s') : s'.stack.depth ≤ s.stack.depth + 1 := by
  rcases effect_of_step h with ⟨i, _, effect⟩
  cases effect with
  | take | go | count | reset | mark => exact Nat.le_succ _
  | push => exact Nat.le_refl _
  | drop left => exact Nat.le_succ_of_le (depth_le_of_suffix left)
  | @back saved T found =>
    rcases CheckpointStack.unwind_eq_some found with ⟨dropped, split⟩
    refine Nat.le_succ_of_le (depth_le_of_suffix ⟨dropped ++ [.resume saved], ?_⟩)
    rw [split, List.append_assoc]
    rfl

/-- Whoever may make enough steps and push enough checkpoints finds the answer. -/
theorem exists_runFrom_of_evaluates (h : m.Evaluates (.next s) r) :
    ∃ n, ∀ (limits : Limits) (fuel : Nat), n ≤ fuel → s.stack.depth + n ≤ limits.checkpoints →
      m.runFrom limits fuel s = .ok r := by
  -- each step takes one unit of fuel and room for at most one more checkpoint
  generalize begins : Step.next s = step at h
  induction h generalizing s with
  | halt r => cases begins
  | @next t r later ih =>
    obtain rfl : s = t := Step.next.inj begins
    cases step : m.step s with
    | halt result =>
      rw [step] at later
      cases later
      refine ⟨1, ?_⟩
      intro limits fuel enough room
      obtain ⟨fuel, rfl⟩ : ∃ k, fuel = k + 1 := ⟨fuel - 1, by omega⟩
      have fits : m.overflows limits s = false := by
        simp only [overflows, Bool.and_eq_false_iff, decide_eq_false_iff_not]
        omega
      rw [runFrom, fits, step]
      rfl
    | next s' =>
      rcases ih step.symm with ⟨n, runs⟩
      refine ⟨n + 1, ?_⟩
      intro limits fuel enough room
      obtain ⟨fuel, rfl⟩ : ∃ k, fuel = k + 1 := ⟨fuel - 1, by omega⟩
      have fits : m.overflows limits s = false := by
        simp only [overflows, Bool.and_eq_false_iff, decide_eq_false_iff_not]
        omega
      have grown := depth_le_of_step step
      rw [runFrom, fits, step]
      exact runs limits fuel (by omega) (by omega)
    | fault f =>
      rw [step] at later
      cases later

/-- If a run has an answer without limits, then it has it within all limits that are generous
enough. -/
theorem exists_run_of_evaluates {start : Position}
    (h : m.Evaluates (.next (.initial m.program start)) r) :
    ∃ n, ∀ limits : Limits, n ≤ limits.fuel → n ≤ limits.checkpoints →
      m.run limits start = .ok r := by
  rcases exists_runFrom_of_evaluates h with ⟨n, runs⟩
  refine ⟨n, fun limits enough room => runs limits limits.fuel enough ?_⟩
  exact Nat.le_trans (Nat.le_of_eq (Nat.zero_add n)) room

end Machine

end GraphemeRegex
