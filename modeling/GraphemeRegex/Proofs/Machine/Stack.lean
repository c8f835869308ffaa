import GraphemeRegex.Machine.Step

/-! # Stacks — what lies on a checkpoint stack

* `CheckpointStack.unwind_eq_some`, `CheckpointStack.cut?_eq_some`: what unwinding and cutting drop.
* `CheckpointStack.fallBack`: where a run goes on when a path fails.
* `CheckpointStack.Leaves`: one stack is another one with places to resume from on top.
-/

namespace GraphemeRegex

namespace CheckpointStack

variable {S T U : CheckpointStack} {saved : Snapshot} {pos : Position}

/-- A stack with entries is its first entry on top of the others. -/
theorem eq_push {e : Checkpoint} {entries : List Checkpoint} (h : S.entries = e :: entries) :
    S = (ofList entries).push e :=
  ext h

theorem ofList_entries (S : CheckpointStack) : ofList S.entries = S :=
  ext rfl

/-! ## Unwinding and cutting -/

/-- Unwinding drops everything down to the first place to resume from. -/
theorem unwind_eq_some (h : S.unwind = some (saved, T)) :
    ∃ dropped, S.entries = dropped ++ .resume saved :: T.entries := by
  induction entries : S.entries generalizing S with
  | nil =>
    obtain rfl : S = empty := ext entries
    cases h
  | cons e rest ih =>
    obtain rfl := eq_push entries
    cases e with
    -- the entries are dropped one by one
    | resume =>
      cases h
      exact ⟨[], rfl⟩
    | placeholder | fence =>
      rcases ih (S := ofList rest) h rfl with ⟨dropped, split⟩
      rw [split]
      exact ⟨_ :: dropped, rfl⟩

/-- Cutting drops everything down to the first fence, and gives the position saved there. -/
theorem cut?_eq_some (h : S.cut? = some (pos, T)) :
    ∃ dropped saved, S.entries = dropped ++ .fence saved :: T.entries ∧ saved.pos = pos := by
  induction entries : S.entries generalizing S with
  | nil =>
    obtain rfl : S = empty := ext entries
    cases h
  | cons e rest ih =>
    obtain rfl := eq_push entries
    cases e with
    -- entries of other kinds are dropped on the way
    | fence saved =>
      cases h
      exact ⟨[], saved, rfl, rfl⟩
    | placeholder | resume =>
      rcases ih (S := ofList rest) h rfl with ⟨dropped, saved, split, here⟩
      rw [split]
      exact ⟨_ :: dropped, saved, rfl, here⟩

/-- Popping takes one entry, of whatever kind. -/
theorem pop?_eq_some (h : S.pop? = some T) : ∃ e, S.entries = e :: T.entries := by
  cases entries : S.entries with
  | nil =>
    obtain rfl : S = empty := ext entries
    cases h
  | cons e rest =>
    obtain rfl := eq_push entries
    cases h
    exact ⟨e, rfl⟩

/-! ## Falling back -/

/-- Where a run goes on when a path fails: at the latest snapshot, or nowhere. -/
def fallBack (S : CheckpointStack) : Step :=
  match S.unwind with
  | some (saved, stack) => .next { saved with stack }
  | none => .halt none

/-- Falling back takes at least one entry from the stack. -/
theorem length_lt_of_fallBack {s : State} (h : S.fallBack = .next s) :
    s.stack.entries.length < S.entries.length := by
  unfold fallBack at h
  split at h
  · rename_i saved T found
    cases h
    obtain ⟨dropped, split⟩ := unwind_eq_some found
    show T.entries.length < S.entries.length
    rw [split, List.length_append, List.length_cons]
    omega
  · cases h

/-- A run that has nowhere to fall back to ends without a match. -/
theorem fallBack_eq_halt {r : Option Position} (h : S.fallBack = .halt r) :
    r = none ∧ S.unwind = none := by
  unfold fallBack at h
  split at h
  · cases h
  · rename_i nothing
    cases h
    exact ⟨rfl, nothing⟩

theorem fallBack_of_unwind (nothing : S.unwind = none) : S.fallBack = .halt none := by
  rw [fallBack, nothing]

/-! ## Places to resume from -/

/-- `T` is `S` with places to resume from on top, all of them between two addresses. -/
def Leaves (lo hi : Nat) (S T : CheckpointStack) : Prop :=
  ∃ left, T.entries = left ++ S.entries ∧
    ∀ e ∈ left, ∃ saved, e = .resume saved ∧ lo ≤ saved.ip ∧ saved.ip ≤ hi

variable {lo hi : Nat}

theorem Leaves.refl (lo hi : Nat) (S : CheckpointStack) : S.Leaves lo hi S :=
  ⟨[], rfl, fun _ mem => absurd mem List.not_mem_nil⟩

/-- Another place to resume from, inside the same code. -/
theorem Leaves.push (h : S.Leaves lo hi T) (low : lo ≤ saved.ip) (high : saved.ip ≤ hi) :
    S.Leaves lo hi (T.push (.resume saved)) := by
  rcases h with ⟨left, split, places⟩
  refine ⟨.resume saved :: left, ?_, ?_⟩
  · rw [entries_push, split, List.cons_append]
  · intro e mem
    rcases List.mem_cons.1 mem with rfl | mem
    · exact ⟨saved, rfl, low, high⟩
    · exact places e mem

/-- What is left by one part of code lies on what was left before it. -/
theorem Leaves.trans (h : S.Leaves lo hi T) (h' : T.Leaves lo hi U) : S.Leaves lo hi U := by
  rcases h with ⟨left, split, places⟩
  rcases h' with ⟨left', split', places'⟩
  refine ⟨left' ++ left, ?_, ?_⟩
  · rw [split', split, List.append_assoc]
  · intro e mem
    rcases List.mem_append.1 mem with mem | mem
    · exact places' e mem
    · exact places e mem

/-- Places inside of code are inside of all that contains it. -/
theorem Leaves.mono {lo' hi' : Nat} (h : S.Leaves lo hi T) (low : lo' ≤ lo) (high : hi ≤ hi') :
    S.Leaves lo' hi' T := by
  rcases h with ⟨left, split, places⟩
  refine ⟨left, split, ?_⟩
  intro e mem
  rcases places e mem with ⟨saved, rfl, low', high'⟩
  exact ⟨saved, rfl, Nat.le_trans low low', Nat.le_trans high' high⟩

/-- Places to resume from do not hide a fence from a cut. -/
theorem Leaves.cut? (h : (S.push (.fence saved)).Leaves lo hi T) :
    T.cut? = some (saved.pos, S) := by
  rcases h with ⟨left, split, places⟩
  induction left generalizing T with
  | nil =>
    obtain rfl : T = S.push (.fence saved) := ext split
    rfl
  | cons e left ih =>
    rcases places e (by simp) with ⟨_, rfl, _⟩
    obtain rfl := eq_push split
    exact ih (T := ofList (left ++ _)) rfl fun e mem => places e (by simp [mem])

end CheckpointStack

namespace State

theorem backtrack_eq (s : State) : s.backtrack = s.stack.fallBack := rfl

/-- The registers of the state are those of the program. -/
structure Sized (p : Program) (s : State) : Prop where
  counters : s.counters.size = p.counters.size
  marks : s.marks.size = p.marks

/-- A run starts with all the registers of its program. -/
theorem sized_initial (p : Program) (start : Position) : (initial p start).Sized p :=
  ⟨rfl, Array.size_replicate⟩

end State

theorem Machine.step_of_code {m : Machine} {s : State} {i : Instruction Nat}
    (found : m.program.code[s.ip]? = some i) : m.step s = m.execute s i := by
  rw [step, found]

end GraphemeRegex
