import GraphemeRegex.Machine.Run
import GraphemeRegex.Proofs.Machine.Effects
import GraphemeRegex.Proofs.Text.Reach

/-! # Fitting — the data of a run

The positions and registers of a run, and those that its checkpoints keep, fit the program and the
subject. This holds for every program, also for one that is not well formed.

* `Snapshot.Fits`, `State.Fits`: the data fits.
* `State.Fits.step`: a step preserves this.
* `Machine.Visits`: a run comes from one state to another.
* `State.fits_of_visits`: the data of a whole run fits.
* `Machine.exists_end_of_runFrom`: what no limit stops ends with the step of a state.
-/

namespace GraphemeRegex

/-! ## Data that fits -/

/-- The position of a snapshot is a good one, and its registers are those of the program: no counter
is above the value with which it begins, and marks hold offsets of good positions. -/
structure Snapshot.Fits (m : Machine) (good : Position → Prop) (s : Snapshot) : Prop where
  pos : good s.pos
  counters : s.counters.size = m.program.counters.size
  bounded : ∀ n v w : Nat, s.counters[n]? = some v → m.program.counters[n]? = some w → v ≤ w
  marks : s.marks.size = m.program.marks
  marked : ∀ n offset : Nat, s.marks[n]? = some (some offset) → ∃ p, good p ∧ p.offset = offset

/-- The data of a state fits, with all that its checkpoints save. -/
structure State.Fits (m : Machine) (good : Position → Prop) (s : State) : Prop where
  now : s.toSnapshot.Fits m good
  saved : ∀ e ∈ s.stack.entries, e.saved.Fits m good

variable {m : Machine} {good : Position → Prop} {s s' : State}

namespace Snapshot.Fits

variable {a : Snapshot}

/-- Data fits wherever control is. -/
theorem of_data {b : Snapshot} (h : a.Fits m good) (pos : good b.pos)
    (counters : b.counters = a.counters) (marks : b.marks = a.marks) : b.Fits m good where
  pos := pos
  counters := by
    rw [counters]
    exact h.counters
  bounded := by
    rw [counters]
    exact h.bounded
  marks := by
    rw [marks]
    exact h.marks
  marked := by
    rw [marks]
    exact h.marked

/-- A counter may be set to at most the value that it began with. -/
theorem set_counter {b : Snapshot} {k v : Nat} (h : a.Fits m good) (pos : b.pos = a.pos)
    (counters : b.counters = a.counters.setIfInBounds k v) (marks : b.marks = a.marks)
    (small : ∀ w, m.program.counters[k]? = some w → v ≤ w) : b.Fits m good where
  pos := pos ▸ h.pos
  counters := by
    rw [counters, Array.size_setIfInBounds]
    exact h.counters
  bounded n u w found initial := by
    rw [counters] at found
    -- the counter that was set, or another one
    by_cases same : k = n
    · subst same
      rcases Array.getElem?_eq_some_iff.1 found with ⟨inside, _⟩
      rw [Array.size_setIfInBounds] at inside
      rw [Array.getElem?_setIfInBounds_self_of_lt inside, Option.some.injEq] at found
      exact found ▸ small w initial
    · rw [Array.getElem?_setIfInBounds_ne same] at found
      exact h.bounded n u w found initial
  marks := by
    rw [marks]
    exact h.marks
  marked := by
    rw [marks]
    exact h.marked

/-- A mark may be unset, or set to the position. -/
theorem set_mark {b : Snapshot} {k : Nat} {value : Option Nat} (h : a.Fits m good)
    (pos : b.pos = a.pos) (counters : b.counters = a.counters)
    (marks : b.marks = a.marks.setIfInBounds k value)
    (known : value = none ∨ value = some a.pos.offset) : b.Fits m good where
  pos := pos ▸ h.pos
  counters := by
    rw [counters]
    exact h.counters
  bounded := by
    rw [counters]
    exact h.bounded
  marks := by
    rw [marks, Array.size_setIfInBounds]
    exact h.marks
  marked n offset found := by
    rw [marks] at found
    by_cases same : k = n
    · subst same
      rcases Array.getElem?_eq_some_iff.1 found with ⟨inside, _⟩
      rw [Array.size_setIfInBounds] at inside
      rw [Array.getElem?_setIfInBounds_self_of_lt inside, Option.some.injEq] at found
      -- only a mark that is set has to be a position that was reached
      rcases known with none | here
      · rw [none] at found
        cases found
      · rw [here, Option.some.injEq] at found
        exact ⟨a.pos, h.pos, found⟩
    · rw [Array.getElem?_setIfInBounds_ne same] at found
      exact h.marked n offset found

/-- Only the registers of the program matter. -/
theorem congr {m' : Machine} (h : a.Fits m good)
    (counters : m'.program.counters = m.program.counters)
    (marks : m'.program.marks = m.program.marks) : a.Fits m' good where
  pos := h.pos
  counters := counters ▸ h.counters
  bounded := counters ▸ h.bounded
  marks := marks ▸ h.marks
  marked := h.marked

end Snapshot.Fits

/-! ## Runs -/

namespace State.Fits

theorem congr {m' : Machine} (h : s.Fits m good)
    (counters : m'.program.counters = m.program.counters)
    (marks : m'.program.marks = m.program.marks) : s.Fits m' good where
  now := h.now.congr counters marks
  saved e mem := (h.saved e mem).congr counters marks

/-- A run begins with data that fits. -/
theorem initial {start : Position} (h : good start) :
    (State.initial m.program start).Fits m good where
  now :=
    { pos := h
      counters := rfl
      bounded := by
        intro n v w found same
        exact Nat.le_of_eq (Option.some.inj (found.symm.trans same))
      marks := Array.size_replicate
      marked := by
        intro n offset found
        rcases Array.getElem?_eq_some_iff.1 found with ⟨_, same⟩
        simp [State.initial] at same }
  saved _ mem := absurd mem List.not_mem_nil

/-- What an instruction does keeps data that fits, if what it consumes leads from one good position
to another. -/
theorem effect {i : Instruction Nat} (h : s.Fits m good) (effect : Machine.Effect m i s s')
    (moves : ∀ text q, i.consumes? m s.pos = some (text, q) → good q) : s'.Fits m good := by
  cases effect with
  | take taken => exact ⟨h.now.of_data (moves _ _ taken) rfl rfl, h.saved⟩
  | go => exact ⟨h.now.of_data h.now.pos rfl rfl, h.saved⟩
  | @push e target _ place entry =>
    refine ⟨h.now.of_data h.now.pos rfl rfl, ?_⟩
    intro e' mem
    rcases List.mem_cons.1 mem with rfl | mem
    · -- whatever the new entry is for, it saves the data of the state
      rcases entry with rfl | rfl | ⟨resume, _, rfl⟩
      · exact h.now
      · exact h.now
      · exact h.now.of_data h.now.pos rfl rfl
    · exact h.saved e' mem
  | @count id n mem left =>
    refine ⟨h.now.set_counter rfl rfl rfl ?_, h.saved⟩
    intro w initial
    -- counting down stays below the value with which the counter began
    have bounded : n + 1 ≤ w := h.now.bounded _ _ _ left initial
    omega
  | reset mem found =>
    refine ⟨h.now.set_counter rfl rfl rfl ?_, h.saved⟩
    intro w initial
    exact Nat.le_of_eq (Option.some.inj (found.symm.trans initial))
  | mark mem inside known => exact ⟨h.now.set_mark rfl rfl rfl known, h.saved⟩
  | drop left known =>
    -- a position that is gone back to is the one of a fence
    constructor
    · refine h.now.of_data ?_ rfl rfl
      rcases known with rfl | ⟨saved, mem, rfl⟩
      · exact h.now.pos
      · exact (h.saved _ mem).pos
    · intro e mem
      exact h.saved e (left.mem mem)
  | @back saved _ found =>
    -- the snapshot and the stack below it were on the stack before
    rcases CheckpointStack.unwind_eq_some found with ⟨dropped, split⟩
    have fits := h.saved
    rw [split] at fits
    constructor
    · have resumed : saved.Fits m good := fits (.resume saved) (by simp)
      exact resumed.of_data resumed.pos rfl rfl
    · intro e mem
      exact fits e (by simp [mem])

/-- A step keeps data that fits. -/
theorem step (h : s.Fits m good)
    (moves : ∀ (i : Instruction Nat) (p : Position) (text : Text) (q : Position),
      m.program.code[s.ip]? = some i → good p → i.consumes? m p = some (text, q) → good q)
    (next : m.step s = .next s') : s'.Fits m good := by
  rcases Machine.effect_of_step next with ⟨i, code, effect⟩
  refine h.effect effect ?_
  intro text q taken
  exact moves i s.pos text q code h.now.pos taken

/-- No step goes back in front of the position in which a run began. -/
theorem onward {start : Position} (h : s.Fits m start.Reaches) (next : m.step s = .next s') :
    s'.Fits m start.Reaches := by
  refine h.step ?_ next
  intro i p text q _ ahead taken
  exact ahead.trans ⟨text, Instruction.after?_of_consumes? taken⟩

end State.Fits

/-- A run comes from the state `s` to another. -/
inductive Machine.Visits (m : Machine) (s : State) : State → Prop where
  | refl : m.Visits s s
  | step {t u : State} (before : m.Visits s t) (next : m.step t = .next u) : m.Visits s u

/-- In a whole run from a position of the subject, all positions come after that position. -/
theorem State.fits_of_visits {start : Position}
    (visits : m.Visits (.initial m.program start) s) : s.Fits m start.Reaches := by
  induction visits with
  | refl => exact .initial (.refl start)
  | step before next ih => exact ih.onward next

/-- A run that no limit stops has come to a state whose step ends it. -/
theorem Machine.exists_end_of_runFrom {limits : Limits} {fuel : Nat} {s₀ : State}
    (visits : m.Visits s₀ s) :
    (∀ r, m.runFrom limits fuel s = .ok r → ∃ t, m.Visits s₀ t ∧ m.step t = .halt r) ∧
      ∀ f, m.runFrom limits fuel s = .error (.machine f) →
        ∃ t, m.Visits s₀ t ∧ m.step t = .fault f := by
  induction fuel generalizing s with
  | zero => exact ⟨nofun, nofun⟩
  | succ fuel ih =>
    rw [runFrom]
    -- a limit that stops the run is neither an answer nor a fault
    split
    · exact ⟨nofun, nofun⟩
    · cases step : m.step s with
      | next t => exact ih (.step visits step)
      | halt r =>
        refine ⟨?_, nofun⟩
        rintro _ ⟨⟩
        exact ⟨s, visits, step⟩
      | fault f =>
        refine ⟨nofun, ?_⟩
        rintro _ ⟨⟩
        exact ⟨s, visits, step⟩

theorem State.Fits.sized (h : s.Fits m good) : s.Sized m.program :=
  ⟨h.now.counters, h.now.marks⟩

end GraphemeRegex
