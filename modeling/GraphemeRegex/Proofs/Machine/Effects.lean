import GraphemeRegex.Proofs.Machine.Stack
import GraphemeRegex.Proofs.Program.Draft

/-! # Effects — everything that one step can do

A step that goes on does one of eight things to its state. What holds of a state after each of them
holds after every step, so invariants need no look at single instructions.

* `Machine.Effect`: the eight things.
* `Machine.effect_of_step`: a step that goes on does nothing else.
* `Machine.halt_of_step`: a step ends the run in two ways only.
-/

namespace GraphemeRegex

namespace Machine

/-- What a step of an instruction can do to a state. -/
inductive Effect (m : Machine) (i : Instruction Nat) (s : State) : State → Prop where
  /-- Something is taken from the subject. -/
  | take {text : Text} {q : Position} (taken : i.consumes? m s.pos = some (text, q)) :
    Effect m i s { s with pos := q, ip := s.ip + 1 }
  | go {target : Nat} (place : target = s.ip + 1 ∨ target ∈ i.targets) :
    Effect m i s (s.jump target)
  | push {e : Checkpoint} {target : Nat} (pushes : i.pushes = true)
    (place : target = s.ip + 1 ∨ target ∈ i.targets)
    (entry : e = .placeholder s.toSnapshot ∨ e = .fence s.toSnapshot ∨
      ∃ resume ∈ i.targets, e = s.resumeAt resume) :
    Effect m i s ((s.push e).jump target)
  | count {id : CounterId} {n : Nat} (mem : id ∈ i.counters)
    (left : s.counters[id.index]? = some (n + 1)) :
    Effect m i s { s.next with counters := s.counters.setIfInBounds id.index n }
  | reset {id : CounterId} {initial : Nat} (mem : id ∈ i.counters)
    (found : m.program.counters[id.index]? = some initial) :
    Effect m i s { s.next with counters := s.counters.setIfInBounds id.index initial }
  | mark {id : MarkId} {value : Option Nat} (mem : id ∈ i.marks) (inside : id.index < s.marks.size)
    (known : value = none ∨ value = some s.pos.offset) :
    Effect m i s { s.next with marks := s.marks.setIfInBounds id.index value }
  /-- Entries are dropped, and the position may be the one of a fence among them. -/
  | drop {pos : Position} {T : CheckpointStack} (left : T.entries <:+ s.stack.entries)
    (known : pos = s.pos ∨ ∃ saved, .fence saved ∈ s.stack.entries ∧ saved.pos = pos) :
    Effect m i s { s.next with pos, stack := T }
  /-- A snapshot is restored. -/
  | back {saved : Snapshot} {T : CheckpointStack} (found : s.stack.unwind = some (saved, T)) :
    Effect m i s { saved with stack := T }

variable {m : Machine} {i : Instruction Nat} {s s' : State}

/-- A failure goes on at a saved state. -/
theorem effect_of_backtrack (h : s.backtrack = .next s') : Effect m i s s' := by
  unfold State.backtrack at h
  split at h
  · rename_i saved T found
    cases h
    exact .back found
  · cases h

/-- What consumes takes something, or it fails. -/
theorem effect_of_afterConsuming (h : s.afterConsuming (i.consumes? m s.pos) = .next s') :
    Effect m i s s' := by
  unfold State.afterConsuming at h
  split at h
  · rename_i text q taken
    cases h
    exact .take taken
  · exact effect_of_backtrack h

/-- Each instruction has its own effects among the eight. -/
theorem effect_of_execute (h : m.execute s i = .next s') : Effect m i s s' := by
  cases i with
  | advance count | matchText text level | consume cls level => exact effect_of_afterConsuming h
  | matchString string level =>
    rw [execute] at h
    split at h
    · exact effect_of_afterConsuming h
    · cases h
  | save resume =>
    cases h
    exact .push rfl (.inl rfl) (.inr (.inr ⟨resume, by simp [Instruction.targets], rfl⟩))
  | savePlaceholder =>
    cases h
    exact .push rfl (.inl rfl) (.inl rfl)
  | fence =>
    cases h
    exact .push rfl (.inl rfl) (.inr (.inl rfl))
  | branch target =>
    cases h
    exact .go (.inr (by simp [Instruction.targets]))
  | split target resume =>
    cases h
    exact .push rfl (.inr (by simp [Instruction.targets]))
      (.inr (.inr ⟨resume, by simp [Instruction.targets], rfl⟩))
  | condBranch target counter =>
    have mem : counter ∈ (Instruction.condBranch target counter).counters := by
      simp [Instruction.counters]
    rw [execute, State.countDown] at h
    split at h
    · cases h
    · cases h
      exact .go (.inr (by simp [Instruction.targets]))
    · rename_i n left
      cases h
      exact .count mem left
  | reset counter =>
    rw [execute, resetCounter] at h
    split at h
    · cases h
    · rename_i initial found
      cases h
      exact .reset (by simp [Instruction.counters]) found
  | mark mark =>
    rw [execute, State.setMark] at h
    split at h
    · rename_i inside
      cases h
      exact .mark (by simp [Instruction.marks]) inside (.inr rfl)
    · cases h
  | unmark mark =>
    rw [execute, State.setMark] at h
    split at h
    · rename_i inside
      cases h
      exact .mark (by simp [Instruction.marks]) inside (.inl rfl)
    · cases h
  | checkProgress target mark =>
    rw [execute, State.checkProgress] at h
    split at h
    · cases h
    · cases h
      split
      · exact .go (.inr (by simp [Instruction.targets]))
      · exact .go (.inl rfl)
  | clear =>
    rw [execute, State.clear] at h
    split at h
    · cases h
    · rename_i T found
      cases h
      rcases CheckpointStack.pop?_eq_some found with ⟨e, split⟩
      exact .drop ⟨[e], by simp [split]⟩ (.inl rfl)
  | cut rewind =>
    rw [execute, State.cut] at h
    split at h
    · cases h
    · rename_i pos T found
      cases h
      rcases CheckpointStack.cut?_eq_some found with ⟨dropped, saved, split, here⟩
      refine .drop ⟨dropped ++ [.fence saved], by simp [split]⟩ ?_
      -- the position that a rewinding cut goes back to is the one of the fence it drops
      cases rewind with
      | false => exact .inl rfl
      | true => exact .inr ⟨saved, by simp [split], here⟩
  | fail => exact effect_of_backtrack h
  | accept =>
    rw [execute] at h
    split at h
    · cases h
    · exact effect_of_backtrack h

/-- A step that goes on has one of the effects of its instruction. -/
theorem effect_of_step (h : m.step s = .next s') :
    ∃ i, m.program.code[s.ip]? = some i ∧ Effect m i s s' := by
  unfold step at h
  split at h
  · cases h
  · rename_i i found
    exact ⟨i, found, effect_of_execute h⟩

/-! ## Ends of a run -/

variable {r : Option Position}

/-- A failure ends the run if there is nothing to resume from. -/
theorem halt_of_backtrack (h : s.backtrack = .halt r) : r = none ∧ s.stack.unwind = none := by
  unfold State.backtrack at h
  split at h
  · cases h
  · rename_i empty
    cases h
    exact ⟨rfl, empty⟩

/-- What consumes only ends the run by a failure. -/
theorem halt_of_afterConsuming {taken : Option (Text × Position)}
    (h : s.afterConsuming taken = .halt r) : r = none ∧ s.stack.unwind = none := by
  unfold State.afterConsuming at h
  split at h
  · cases h
  · exact halt_of_backtrack h

/-- Of all instructions, one ends a run with a match. -/
theorem halt_of_execute (h : m.execute s i = .halt r) :
    r = none ∧ s.stack.unwind = none ∨ i = .accept ∧ r = some s.pos := by
  cases i with
  | advance _ | matchText _ _ | consume _ _ => exact .inl (halt_of_afterConsuming h)
  | matchString string level =>
    rw [execute] at h
    split at h
    · exact .inl (halt_of_afterConsuming h)
    · cases h
  | fail => exact .inl (halt_of_backtrack h)
  -- it accepts, or fails because more of the subject is left
  | accept =>
    rw [execute] at h
    split at h
    · cases h
      exact .inr ⟨rfl, rfl⟩
    · exact .inl (halt_of_backtrack h)
  -- the others go on, or are at fault
  | save _ | savePlaceholder | branch _ | split _ _ | fence => cases h
  | condBranch target counter =>
    rw [execute, State.countDown] at h
    split at h <;> cases h
  | clear =>
    rw [execute, State.clear] at h
    split at h <;> cases h
  | reset counter =>
    rw [execute, resetCounter] at h
    split at h <;> cases h
  | mark _ | unmark _ =>
    rw [execute, State.setMark] at h
    split at h <;> cases h
  | checkProgress target mark =>
    rw [execute, State.checkProgress] at h
    split at h <;> cases h
  | cut rewind =>
    rw [execute, State.cut] at h
    split at h <;> cases h

/-- A run ends without a match where nothing is left to resume from, and with one where it accepts
its position. -/
theorem halt_of_step (h : m.step s = .halt r) :
    r = none ∧ s.stack.unwind = none ∨ m.program.code[s.ip]? = some .accept ∧ r = some s.pos := by
  unfold step at h
  split at h
  · cases h
  · rename_i i found
    refine (halt_of_execute h).imp_right ?_
    rintro ⟨rfl, here⟩
    exact ⟨found, here⟩

end Machine

end GraphemeRegex
