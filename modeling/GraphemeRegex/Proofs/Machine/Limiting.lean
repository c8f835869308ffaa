import GraphemeRegex.Proofs.Lowering.Safety
import GraphemeRegex.Proofs.Machine.Evaluation

/-! # Limiting — what limits do to a run

Without limits a run is one sequence of states, which may go on for ever. Limits stop it at the
first checkpoint too many or when the fuel is used up, and they do nothing else.

* `Machine.Goes`: `n` instructions of the run without limits lead from one state to another.
* `Machine.Crowds`, `Machine.HaltsWithin`: the two things that can happen within the fuel.
* `Machine.Passes`: a run within limits comes to a state.
* `Machine.runAt_iff_limits`: the answer of a run within limits, by what happens without them.
-/

namespace GraphemeRegex

namespace Machine

variable {m : Machine} {limits : Limits} {fuel n k : Nat} {s t u : State} {r r' : Option Position}

/-! ## The run without limits -/

/-- Without limits, `n` instructions lead from one state to another. -/
def Goes (m : Machine) : (n : Nat) → State → State → Prop
  | 0, s, t => t = s
  | n + 1, s, t => ∃ u, m.step s = .next u ∧ m.Goes n u t

/-- The state behind a number of instructions is the only one. -/
theorem Goes.unique (h : m.Goes n s t) (h' : m.Goes n s u) : t = u := by
  induction n generalizing s with
  | zero => exact h.trans h'.symm
  | succ n ih =>
    obtain ⟨v, step, later⟩ := h
    obtain ⟨v', step', later'⟩ := h'
    have same : v = v' := Step.next.inj (step.symm.trans step')
    subst same
    exact ih later later'

/-- What lies on the way to a state has been passed before. -/
theorem Goes.exists_of_le (h : m.Goes n s t) (le : k ≤ n) :
    ∃ u, m.Goes k s u ∧ m.Goes (n - k) u t := by
  induction k generalizing s n with
  | zero => exact ⟨s, rfl, h⟩
  | succ k ih =>
    obtain ⟨n, rfl⟩ : ∃ i, n = i + 1 := ⟨n - 1, by omega⟩
    obtain ⟨v, step, later⟩ := h
    obtain ⟨u, first, second⟩ := ih later (by omega)
    have count : n + 1 - (k + 1) = n - k := by omega
    rw [count]
    exact ⟨u, ⟨v, step, first⟩, second⟩

theorem Goes.succ (h : m.Goes n s t) (step : m.step t = .next u) : m.Goes (n + 1) s u := by
  induction n generalizing s with
  | zero =>
    have here : t = s := h
    subst here
    exact ⟨u, step, rfl⟩
  | succ n ih =>
    obtain ⟨v, first, later⟩ := h
    exact ⟨v, first, ih later⟩

/-- To go so many steps is to visit where they lead. -/
theorem Visits.of_goes {s₀ : State} (visits : m.Visits s₀ s) (h : m.Goes n s t) :
    m.Visits s₀ t := by
  induction n generalizing s with
  | zero =>
    have here : t = s := h
    subst here
    exact visits
  | succ n ih =>
    obtain ⟨v, step, later⟩ := h
    exact ih (.step visits step) later

/-- No step from a state that a run comes to is a fault. -/
def Sound (m : Machine) (s₀ : State) : Prop :=
  ∀ s, m.Visits s₀ s → ∀ f, m.step s ≠ .fault f

/-- A run that does not fault halts in front of an instruction or gets behind it. -/
theorem Sound.goes_or_halts (sound : m.Sound s) (n : Nat) :
    (∃ t, m.Goes n s t) ∨ ∃ k < n, ∃ t r, m.Goes k s t ∧ m.step t = .halt r := by
  induction n with
  | zero => exact .inl ⟨s, rfl⟩
  | succ n ih =>
    rcases ih with ⟨t, goes⟩ | ⟨k, less, t, r, goes, halt⟩
    · cases step : m.step t with
      | next u => exact .inl ⟨u, goes.succ step⟩
      | halt r => exact .inr ⟨n, Nat.lt_succ_self n, t, r, goes, step⟩
      | fault f => exact absurd step (sound t (Visits.refl.of_goes goes) f)
    · exact .inr ⟨k, Nat.lt_succ_of_lt less, t, r, goes, halt⟩

/-! ## What can happen within the fuel -/

/-- Among the first instructions of the run, as many as there is fuel for, one pushes a checkpoint
while as many are alive as the limits allow. -/
def Crowds (m : Machine) (limits : Limits) (fuel : Nat) (s : State) : Prop :=
  ∃ n < fuel, ∃ t, m.Goes n s t ∧ m.pushesNext t = true ∧ t.stack.depth = limits.checkpoints

/-- One of the first instructions of the run, as many as there is fuel for, ends it. -/
def HaltsWithin (m : Machine) (fuel : Nat) (s : State) (r : Option Position) : Prop :=
  ∃ n < fuel, ∃ t, m.Goes n s t ∧ m.step t = .halt r

/-- An instruction after which more checkpoints are alive is one that pushes. -/
theorem pushesNext_of_depth_lt (step : m.step s = .next t) (more : s.stack.depth < t.stack.depth) :
    m.pushesNext s = true := by
  obtain ⟨i, code, effect⟩ := effect_of_step step
  cases effect with
  | take | go | count | reset | mark => exact absurd more (Nat.lt_irrefl _)
  | push pushes =>
    rw [pushesNext, code]
    exact pushes
  | drop left =>
    have fewer := depth_le_of_suffix left
    exact absurd more (Nat.not_lt.2 fewer)
  | @back saved T found =>
    obtain ⟨dropped, split⟩ := CheckpointStack.unwind_eq_some found
    -- what is resumed is taken off the stack, together with all above it
    have fewer : T.depth ≤ s.stack.depth := by
      apply depth_le_of_suffix
      refine ⟨dropped ++ [.resume saved], ?_⟩
      rw [split, List.append_assoc]
      rfl
    exact absurd more (Nat.not_lt.2 fewer)

theorem overflows_iff : m.overflows limits s = true ↔
    m.pushesNext s = true ∧ limits.checkpoints ≤ s.stack.depth := by
  rw [overflows, Bool.and_eq_true, decide_eq_true_iff]

/-- Checkpoints are pushed one at a time. So where one is too many, one has been pushed when exactly
as many were alive as the limits allow. -/
theorem crowds_of_overflows (room : s.stack.depth ≤ limits.checkpoints) (less : n < fuel)
    (goes : m.Goes n s t) (exceeds : m.overflows limits t = true) : m.Crowds limits fuel s := by
  induction n generalizing s fuel with
  | zero =>
    have here : t = s := goes
    subst here
    obtain ⟨pushes, full⟩ := overflows_iff.1 exceeds
    exact ⟨0, less, t, rfl, pushes, Nat.le_antisymm room full⟩
  | succ n ih =>
    obtain ⟨u, step, later⟩ := goes
    obtain ⟨fuel, rfl⟩ : ∃ i, fuel = i + 1 := ⟨fuel - 1, by omega⟩
    by_cases still : u.stack.depth ≤ limits.checkpoints
    · obtain ⟨k, within, v, goes, crowd⟩ := ih still (Nat.lt_of_succ_lt_succ less) later
      exact ⟨k + 1, Nat.succ_lt_succ within, v, ⟨u, step, goes⟩, crowd⟩
    · -- the first instruction pushes the checkpoint that is one too many
      have grown := depth_le_of_step step
      have pushes := pushesNext_of_depth_lt step (by omega)
      have full : s.stack.depth = limits.checkpoints := by omega
      exact ⟨0, by omega, s, rfl, pushes, full⟩

/-! ## Runs within limits -/

/-- Where no limit stops it, a run goes on as it does without limits. -/
theorem runFrom_eq_of_goes (goes : m.Goes n s t) (le : n ≤ fuel)
    (free : ∀ k < n, ∀ u, m.Goes k s u → m.overflows limits u = false) :
    m.runFrom limits fuel s = m.runFrom limits (fuel - n) t := by
  induction n generalizing s fuel with
  | zero =>
    have here : t = s := goes
    subst here
    rfl
  | succ n ih =>
    obtain ⟨u, step, later⟩ := goes
    obtain ⟨fuel, rfl⟩ : ∃ i, fuel = i + 1 := ⟨fuel - 1, by omega⟩
    have first : m.overflows limits s = false := free 0 (by omega) s rfl
    -- what stops neither the first step nor a later one
    have others : ∀ k < n, ∀ v, m.Goes k u v → m.overflows limits v = false := by
      intro k less v goes
      exact free (k + 1) (by omega) v ⟨u, step, goes⟩
    have count : fuel + 1 - (n + 1) = fuel - n := by omega
    rw [count, ← ih later (by omega) others, runFrom, first, step]
    rfl

/-- The first instruction that pushes a checkpoint too many stops the run. -/
theorem runFrom_of_crowds (crowds : m.Crowds limits fuel s) :
    m.runFrom limits fuel s = .error (.tooManyCheckpoints limits.checkpoints) := by
  obtain ⟨n, less, t, goes, pushes, full⟩ := crowds
  induction n generalizing s fuel with
  | zero =>
    have here : t = s := goes
    subst here
    obtain ⟨fuel, rfl⟩ : ∃ i, fuel = i + 1 := ⟨fuel - 1, by omega⟩
    have exceeds : m.overflows limits t = true := overflows_iff.2 ⟨pushes, Nat.le_of_eq full.symm⟩
    rw [runFrom, if_pos exceeds]
  | succ n ih =>
    obtain ⟨u, step, later⟩ := goes
    obtain ⟨fuel, rfl⟩ : ∃ i, fuel = i + 1 := ⟨fuel - 1, by omega⟩
    rw [runFrom]
    -- the run may be stopped even before
    by_cases exceeds : m.overflows limits s = true
    · rw [if_pos exceeds]
    · rw [if_neg exceeds, step]
      exact ih (by omega) later

/-- Before it is crowded, no instruction of a run pushes a checkpoint too many. -/
theorem overflows_eq_false (room : s.stack.depth ≤ limits.checkpoints)
    (free : ¬ m.Crowds limits fuel s) (less : n < fuel) (goes : m.Goes n s t) :
    m.overflows limits t = false := by
  apply Bool.eq_false_iff.2
  intro exceeds
  exact free (crowds_of_overflows room less goes exceeds)

/-- A run that is never crowded and halts in time gives its answer. -/
theorem runFrom_of_haltsWithin (room : s.stack.depth ≤ limits.checkpoints)
    (free : ¬ m.Crowds limits fuel s) (halts : m.HaltsWithin fuel s r) :
    m.runFrom limits fuel s = .ok r := by
  obtain ⟨n, less, t, goes, halt⟩ := halts
  have before : ∀ k < n, ∀ u, m.Goes k s u → m.overflows limits u = false := by
    intro k earlier u goes
    exact overflows_eq_false room free (by omega) goes
  have last : m.overflows limits t = false := overflows_eq_false room free less goes
  obtain ⟨left, count⟩ : ∃ i, fuel - n = i + 1 := ⟨fuel - n - 1, by omega⟩
  rw [runFrom_eq_of_goes goes (by omega) before, count, runFrom, last, halt]
  rfl

theorem runFrom_of_goes (room : s.stack.depth ≤ limits.checkpoints)
    (free : ¬ m.Crowds limits fuel s) (goes : m.Goes fuel s t) :
    m.runFrom limits fuel s = .error (.fuelExhausted limits.fuel) := by
  have before : ∀ k < fuel, ∀ u, m.Goes k s u → m.overflows limits u = false := by
    intro k earlier u goes
    exact overflows_eq_false room free earlier goes
  rw [runFrom_eq_of_goes goes (Nat.le_refl _) before, Nat.sub_self, runFrom]

/-- One of three things happens to a run that does not fault, and it has the answer for it. -/
theorem Sound.runFrom_cases (sound : m.Sound s) (room : s.stack.depth ≤ limits.checkpoints)
    (fuel : Nat) :
    (m.Crowds limits fuel s ∧
        m.runFrom limits fuel s = .error (.tooManyCheckpoints limits.checkpoints)) ∨
      (¬ m.Crowds limits fuel s ∧ ∃ r, m.HaltsWithin fuel s r ∧ m.runFrom limits fuel s = .ok r) ∨
      (¬ m.Crowds limits fuel s ∧ (∀ r, ¬ m.HaltsWithin fuel s r) ∧
        m.runFrom limits fuel s = .error (.fuelExhausted limits.fuel)) := by
  by_cases crowds : m.Crowds limits fuel s
  · exact .inl ⟨crowds, runFrom_of_crowds crowds⟩
  by_cases halts : ∃ r, m.HaltsWithin fuel s r
  · obtain ⟨r, halts⟩ := halts
    exact .inr (.inl ⟨crowds, r, halts, runFrom_of_haltsWithin room crowds halts⟩)
  · have never : ∀ r, ¬ m.HaltsWithin fuel s r := fun r h => halts ⟨r, h⟩
    rcases sound.goes_or_halts fuel with ⟨t, goes⟩ | ⟨k, less, t, r, goes, halt⟩
    · exact .inr (.inr ⟨crowds, never, runFrom_of_goes room crowds goes⟩)
    · exact absurd ⟨k, less, t, goes, halt⟩ (never r)

/-- A run halts in at most one way. -/
theorem HaltsWithin.unique (h : m.HaltsWithin fuel s r) (h' : m.HaltsWithin fuel s r') :
    r = r' := by
  obtain ⟨n, _, t, goes, halt⟩ := h
  obtain ⟨n', _, t', goes', halt'⟩ := h'
  -- a run that has halted does not go on, so it is the same instruction
  have earlier : ∀ {i j : Nat} {a b : State} {q : Option Position}, m.Goes i s a →
      m.step a = .halt q → m.Goes j s b → j ≤ i := by
    intro i j a b q goes halt further
    by_contra beyond
    obtain ⟨c, first, second⟩ := further.exists_of_le (Nat.le_of_lt (Nat.lt_of_not_le beyond))
    have same : a = c := goes.unique first
    subst same
    obtain ⟨j', count⟩ : ∃ i', j - i = i' + 1 := ⟨j - i - 1, by omega⟩
    rw [count] at second
    obtain ⟨d, step, _⟩ := second
    rw [halt] at step
    cases step
  have same : n = n' := Nat.le_antisymm (earlier goes' halt' goes) (earlier goes halt goes')
  subst same
  have here : t = t' := goes.unique goes'
  subst here
  exact Step.halt.inj (halt.symm.trans halt')

/-! ## The states of a run within limits -/

/-- A run within limits executes `n` instructions, none of which pushes a checkpoint too many, and
comes to a state. -/
inductive Passes (m : Machine) (limits : Limits) (s₀ : State) : (n : Nat) → State → Prop where
  | start : Passes m limits s₀ 0 s₀
  | step {n : Nat} {s t : State} (before : Passes m limits s₀ n s) (less : n < limits.fuel)
    (room : m.overflows limits s = false) (next : m.step s = .next t) :
    Passes m limits s₀ (n + 1) t

variable {s₀ : State}

theorem Passes.le_fuel (h : m.Passes limits s₀ n s) : n ≤ limits.fuel := by
  cases h with
  | start => exact Nat.zero_le _
  | step _ less => exact less

/-- The stack of a run does not outgrow the limits. -/
theorem Passes.depth_le (h : m.Passes limits s₀ n s)
    (room : s₀.stack.depth ≤ limits.checkpoints) : s.stack.depth ≤ limits.checkpoints := by
  induction h with
  | start => exact room
  | @step n s t before less free next ih =>
    by_cases more : s.stack.depth < t.stack.depth
    · have pushes := pushesNext_of_depth_lt next more
      have grown := depth_le_of_step next
      have below : ¬ limits.checkpoints ≤ s.stack.depth := by
        intro full
        rw [overflows_iff.2 ⟨pushes, full⟩] at free
        cases free
      omega
    · omega

/-- A run within limits goes on from each of its states with the fuel that is left. -/
theorem Passes.runFrom_eq (h : m.Passes limits s₀ n s) :
    m.runFrom limits limits.fuel s₀ = m.runFrom limits (limits.fuel - n) s := by
  induction h with
  | start => rfl
  | @step n s t before less free next ih =>
    obtain ⟨left, count⟩ : ∃ i, limits.fuel - n = i + 1 := ⟨limits.fuel - n - 1, by omega⟩
    have rest : limits.fuel - (n + 1) = left := by omega
    rw [ih, count, rest, runFrom, free, next]
    rfl

/-! ## More generous limits -/

/-- More generous limits do not change an answer. -/
theorem runFrom_mono {limits' : Limits} {fuel' : Nat} (h : m.runFrom limits fuel s = .ok r)
    (le : fuel ≤ fuel') (room : limits.checkpoints ≤ limits'.checkpoints) :
    m.runFrom limits' fuel' s = .ok r := by
  induction fuel generalizing s fuel' with
  | zero => cases h
  | succ fuel ih =>
    obtain ⟨fuel', rfl⟩ : ∃ i, fuel' = i + 1 := ⟨fuel' - 1, by omega⟩
    rw [runFrom] at h
    by_cases exceeds : m.overflows limits s = true
    · rw [if_pos exceeds] at h
      cases h
    · -- what exceeds the more generous limit exceeds the other one
      have free : ¬ m.overflows limits' s = true := by
        intro exceeds'
        obtain ⟨pushes, full⟩ := overflows_iff.1 exceeds'
        exact exceeds (overflows_iff.2 ⟨pushes, Nat.le_trans room full⟩)
      rw [if_neg exceeds] at h
      rw [runFrom, if_neg free]
      cases step : m.step s with
      | next t =>
        rw [step] at h
        exact ih h (Nat.le_of_succ_le_succ le)
      | halt result =>
        rw [step] at h
        exact h
      | fault f =>
        rw [step] at h
        cases h

/-! ## Limits are exact -/

/-- Take a run without limits that does not fault. Within limits, it stops at a checkpoint too many
exactly if, among the instructions that there is fuel for, one pushes while as many checkpoints are
alive as allowed. Otherwise it has an answer exactly if one of these instructions ends it, and
otherwise the fuel is used up. So neither limit is ever exceeded, and more generous limits leave an
answer as it is. -/
theorem runAt_iff_limits {offset : Nat} {start : Position} (limits : Limits)
    (found : m.subject.positionAt? offset = some start)
    (sound : m.Sound (.initial m.program start)) :
    (m.runAt limits offset = .error (.tooManyCheckpoints limits.checkpoints) ↔
        m.Crowds limits limits.fuel (.initial m.program start)) ∧
      (∀ r, m.runAt limits offset = .ok r ↔
        ¬ m.Crowds limits limits.fuel (.initial m.program start) ∧
          m.HaltsWithin limits.fuel (.initial m.program start) r) ∧
      (m.runAt limits offset = .error (.fuelExhausted limits.fuel) ↔
        ¬ m.Crowds limits limits.fuel (.initial m.program start) ∧
          ∀ r, ¬ m.HaltsWithin limits.fuel (.initial m.program start) r) ∧
      (∀ n s, m.Passes limits (.initial m.program start) n s →
        n ≤ limits.fuel ∧ s.stack.depth ≤ limits.checkpoints ∧
          m.runAt limits offset = m.runFrom limits (limits.fuel - n) s) ∧
      (∀ r, m.runAt limits offset = .ok r → ∀ limits' : Limits, limits.fuel ≤ limits'.fuel →
        limits.checkpoints ≤ limits'.checkpoints → m.runAt limits' offset = .ok r) := by
  have room : (State.initial m.program start).stack.depth ≤ limits.checkpoints := Nat.zero_le _
  have runs : ∀ limits : Limits, m.runAt limits offset =
      m.runFrom limits limits.fuel (.initial m.program start) := by
    intro limits
    rw [runAt, found]
    rfl
  have passing : ∀ n s, m.Passes limits (.initial m.program start) n s →
      n ≤ limits.fuel ∧ s.stack.depth ≤ limits.checkpoints ∧
        m.runAt limits offset = m.runFrom limits (limits.fuel - n) s := by
    intro n s passes
    rw [runs limits]
    exact ⟨passes.le_fuel, passes.depth_le room, passes.runFrom_eq⟩
  have generous : ∀ r, m.runAt limits offset = .ok r → ∀ limits' : Limits,
      limits.fuel ≤ limits'.fuel → limits.checkpoints ≤ limits'.checkpoints →
        m.runAt limits' offset = .ok r := by
    intro r ran limits' le le'
    rw [runs limits] at ran
    rw [runs limits']
    exact runFrom_mono ran le le'
  -- a run that does not fault is crowded, halts in time or uses up its fuel, and never two of these
  rcases sound.runFrom_cases room limits.fuel with
    ⟨crowds, ran⟩ | ⟨free, r, halts, ran⟩ | ⟨free, never, ran⟩
  · rw [← runs limits] at ran
    refine ⟨?_, ?_, ?_, passing, generous⟩
    · simp [ran, crowds]
    · simp [ran, crowds]
    · simp [ran, crowds]
  · rw [← runs limits] at ran
    have answer : ∀ r', m.HaltsWithin limits.fuel (.initial m.program start) r' ↔ r = r' := by
      intro r'
      constructor
      · exact halts.unique
      · rintro rfl
        exact halts
    refine ⟨?_, ?_, ?_, passing, generous⟩
    · simp [ran, free]
    · simp [ran, free, answer]
    · simp [ran, free, answer]
  · rw [← runs limits] at ran
    refine ⟨?_, ?_, ?_, passing, generous⟩
    · simp [ran, free]
    · simp [ran, never]
    · simp [ran, free, never]

/-- In `b`, the choice `a|b` takes four instructions and one checkpoint. -/
theorem limits_of_choice :
    let m : Machine := ⟨⟨#[.save 3, .matchText ['a'] .scalar, .branch 4, .matchText ['b'] .scalar,
      .accept], .empty, #[], 0⟩, ['b'], false⟩
    m.Crowds ⟨4, 0⟩ 4 (.initial m.program ⟨0, ['b']⟩) ∧
      m.HaltsWithin 4 (.initial m.program ⟨0, ['b']⟩) (some ⟨1, []⟩) ∧
      ∀ r, ¬ m.HaltsWithin 3 (.initial m.program ⟨0, ['b']⟩) r := by
  intro m
  have found : m.subject.positionAt? 0 = some ⟨0, ['b']⟩ := by decide +kernel
  have compiled : (Pattern.alternation [.atom (.char ['a']), .atom (.char ['b'])]).compile .scalar =
      .ok m.program := by decide +kernel
  obtain ⟨stop, code⟩ := Pattern.compiled_of_compile compiled
  have safe : m.NeverFaults ⟨0, ['b']⟩ := code.neverFaults (.refl _)
  have sound : m.Sound (.initial m.program ⟨0, ['b']⟩) := fun s visits => (safe s visits).1
  refine ⟨?_, ?_, ?_⟩
  · have ran : m.runAt ⟨4, 0⟩ 0 = .error (.tooManyCheckpoints 0) := by decide +kernel
    exact (runAt_iff_limits ⟨4, 0⟩ found sound).1.1 ran
  · have ran : m.runAt ⟨4, 1⟩ 0 = .ok (some ⟨1, []⟩) := by decide +kernel
    exact (((runAt_iff_limits ⟨4, 1⟩ found sound).2.1 _).1 ran).2
  · have ran : m.runAt ⟨3, 1⟩ 0 = .error (.fuelExhausted 3) := by decide +kernel
    exact ((runAt_iff_limits ⟨3, 1⟩ found sound).2.2.1.1 ran).2

end Machine

end GraphemeRegex
