import GraphemeRegex.Proofs.Program.Building
import Mathlib.Data.List.Nodup

/-! # Numbering — the numbers of the registers that calls make

Counters and marks are numbered in the order in which they are made, and behind the last number they
start again from zero. So registers have numbers of their own as long as there are no more registers
than numbers, and the first one beyond that shares its number with the first of all.

* `Builder.made`: what calls make one after the other.
* `Builder.map_number_made`: the numbers that registers get.
* `Builder.nodup_counters_iff`, `Builder.nodup_marks_iff`: when all of them are different.
* `Builder.getElem?_counters_of_mem_made`: the values with which counters begin.
-/

namespace GraphemeRegex

namespace Builder

variable {b c : Builder} {calls : List Call} {call : Call}

/-! ## What calls make -/

/-- The counter that a call makes, with the value it begins with. -/
def Call.counter? (b : Builder) : Call → Option (CounterId × Nat)
  | newCounter initial => some ((b.newCounter initial).1, initial)
  | _ => none

/-- The mark that a call makes. -/
def Call.mark? (b : Builder) : Call → Option MarkId
  | newMark => some b.newMark.1
  | _ => none

/-- What calls make one after the other, until one of them is refused. -/
def made {α : Type} (make? : Builder → Call → Option α) (b : Builder) : List Call → List α
  | [] => []
  | call :: calls =>
    (make? b call).toList ++
      match b.perform call with
      | .ok next => made make? next calls
      | .error _ => []

/-- A call adds the counter that it makes, and no other one. -/
theorem counters_of_perform (performed : b.perform call = .ok c) :
    c.counters = b.counters ++ ((call.counter? b).map (·.2)).toArray := by
  cases call with
  | newCounter initial =>
    cases performed
    simp [Call.counter?, newCounter]
  | place label =>
    obtain ⟨_, rfl⟩ := place_eq_ok_iff.1 performed
    simp [Call.counter?]
  | emit i textless =>
    obtain ⟨_, rfl⟩ := allows_of_emit performed
    simp [Call.counter?]
  | _ =>
    cases performed
    simp [Call.counter?, newLabel, newMark, intern, emitString]

/-- A call adds the mark that it makes, and no other one. -/
theorem marks_of_perform (performed : b.perform call = .ok c) :
    c.marks = b.marks + (call.mark? b).toList.length := by
  cases call with
  | place label =>
    obtain ⟨_, rfl⟩ := place_eq_ok_iff.1 performed
    rfl
  | emit i textless =>
    obtain ⟨_, rfl⟩ := allows_of_emit performed
    rfl
  | _ =>
    cases performed
    rfl

/-- Behind all calls, the counters are those that were made, with the values they began with. -/
theorem counters_of_performAll (performed : b.performAll calls = .ok c) :
    c.counters.toList = b.counters.toList ++ (b.made Call.counter? calls).map (·.2) := by
  induction calls generalizing b with
  | nil =>
    cases performed
    simp [made]
  | cons call calls ih =>
    obtain ⟨next, first, later⟩ := performAll_cons_eq_ok performed
    rw [ih later, counters_of_perform first, made, first]
    cases call.counter? b <;> simp

/-- Calls that make only counters give each its number and its value. -/
theorem made_newCounters (b : Builder) (initials : List Nat) :
    b.made Call.counter? (initials.map Call.newCounter) =
      (initials.zipIdx b.counters.size).map fun x => (⟨x.2 % registerLimit⟩, x.1) := by
  induction initials generalizing b with
  | nil => rfl
  | cons initial initials ih =>
    have later := ih (b.newCounter initial).2
    rw [newCounter, Array.size_push] at later
    exact congrArg (((b.newCounter initial).1, initial) :: ·) later

/-- Calls that make only counters are never refused, and the counters begin with the values. -/
theorem performAll_newCounters (b : Builder) (initials : List Nat) :
    ∃ c, b.performAll (initials.map Call.newCounter) = .ok c ∧
      c.counters.toList = b.counters.toList ++ initials := by
  induction initials generalizing b with
  | nil => exact ⟨b, rfl, (List.append_nil _).symm⟩
  | cons initial initials ih =>
    obtain ⟨c, performed, values⟩ := ih (b.newCounter initial).2
    refine ⟨c, performed, ?_⟩
    rw [values, newCounter, Array.toList_push, List.append_assoc, List.singleton_append]

/-! ## Numbers -/

theorem registerLimit_pos : 0 < registerLimit := by decide

/-- Numbers that start again from zero behind the last are different as long as there are enough. -/
theorem nodup_map_mod_range_iff {m : Nat} (positive : 0 < m) (n : Nat) :
    ((List.range n).map (· % m)).Nodup ↔ n ≤ m := by
  constructor
  · intro nodup
    by_contra more
    -- the number behind the last one is zero again
    have first : 0 ∈ List.range n := List.mem_range.2 (by omega)
    have again : m ∈ List.range n := List.mem_range.2 (by omega)
    have same : 0 = m := List.inj_on_of_nodup_map nodup first again (by simp)
    omega
  · intro enough
    refine List.Nodup.map_on ?_ List.nodup_range
    intro x x_mem y y_mem same
    rw [List.mem_range] at x_mem y_mem
    rwa [Nat.mod_eq_of_lt (by omega), Nat.mod_eq_of_lt (by omega)] at same

section Numbered

variable {α : Type} {make? : Builder → Call → Option α} {number : α → Nat} {size : Builder → Nat}
  (grows : ∀ {b c : Builder} {call : Call}, b.perform call = .ok c →
    size c = size b + (make? b call).toList.length)
  (numbered : ∀ {b : Builder} {call : Call} {x : α}, make? b call = some x →
    number x = size b % registerLimit)

include grows numbered

/-- What is numbered by how much of it there is gets its numbers in order. -/
theorem map_number_made (b : Builder) (calls : List Call) :
    (b.made make? calls).map number =
      (List.range' (size b) (b.made make? calls).length).map (· % registerLimit) := by
  induction calls generalizing b with
  | nil => rfl
  | cons call calls ih =>
    -- the call makes nothing or the next one; behind a refused call, nothing is made
    rw [made]
    cases performed : b.perform call with
    | error fault =>
      cases makes : make? b call with
      | none => rfl
      | some x => simp [numbered makes]
    | ok next =>
      have later := ih next
      rw [grows performed] at later
      cases makes : make? b call with
      | none => simpa [makes] using later
      | some x =>
        rw [makes] at later
        simp only [Option.toList_some, List.singleton_append, List.map_cons, List.length_cons,
          List.range'_succ, numbered makes]
        exact congrArg _ later

/-- All that is made has numbers of its own as long as there are enough numbers. -/
theorem nodup_map_number_iff (none : size empty = 0) (calls : List Call) :
    ((empty.made make? calls).map number).Nodup ↔
      (empty.made make? calls).length ≤ registerLimit := by
  rw [map_number_made grows numbered, none, ← List.range_eq_range']
  exact nodup_map_mod_range_iff registerLimit_pos _

end Numbered

theorem number_of_counter? {x : CounterId × Nat} (makes : call.counter? b = some x) :
    x.1.index = b.counters.size % registerLimit := by
  cases call with
  | newCounter initial =>
    cases makes
    rfl
  | _ => cases makes

theorem number_of_mark? {mark : MarkId} (makes : call.mark? b = some mark) :
    mark.index = b.marks % registerLimit := by
  cases call with
  | newMark =>
    cases makes
    rfl
  | _ => cases makes

theorem size_counters_of_perform (performed : b.perform call = .ok c) :
    c.counters.size = b.counters.size + (call.counter? b).toList.length := by
  rw [counters_of_perform performed]
  cases call.counter? b <;> simp

/-- The counters that calls make are different as long as there are enough numbers. -/
theorem nodup_counters_iff (calls : List Call) :
    ((empty.made Call.counter? calls).map (·.1)).Nodup ↔
      (empty.made Call.counter? calls).length ≤ registerLimit := by
  have injective : Function.Injective CounterId.index := fun x y same => by
    cases x
    cases y
    exact congrArg CounterId.mk same
  rw [← List.nodup_map_iff injective, List.map_map]
  exact nodup_map_number_iff size_counters_of_perform number_of_counter? rfl calls

/-- The marks that calls make are different as long as there are enough numbers. -/
theorem nodup_marks_iff (calls : List Call) :
    (empty.made Call.mark? calls).Nodup ↔
      (empty.made Call.mark? calls).length ≤ registerLimit := by
  have injective : Function.Injective MarkId.index := fun x y same => by
    cases x
    cases y
    exact congrArg MarkId.mk same
  rw [← List.nodup_map_iff injective]
  exact nodup_map_number_iff marks_of_perform number_of_mark? rfl calls

/-- As long as there are enough numbers, each counter leads to the value it was made with. -/
theorem getElem?_counters_of_mem_made (performed : empty.performAll calls = .ok b)
    (enough : (empty.made Call.counter? calls).length ≤ registerLimit) {x : CounterId × Nat}
    (mem : x ∈ empty.made Call.counter? calls) : b.counters[x.1.index]? = some x.2 := by
  obtain ⟨n, inside, rfl⟩ := List.getElem_of_mem mem
  -- the `n`th counter has the number `n`, and it begins with the `n`th value
  have numbers := map_number_made size_counters_of_perform number_of_counter? empty calls
  have none : empty.counters.size = 0 := rfl
  have here := congrArg (·[n]?) numbers
  rw [none] at here
  simp only [List.getElem?_map, List.getElem?_eq_getElem inside, Option.map_some,
    List.getElem?_range', inside, Nat.zero_add, Nat.one_mul, Option.some.injEq,
    Nat.mod_eq_of_lt (Nat.lt_of_lt_of_le inside enough)] at here
  rw [here, ← Array.getElem?_toList, counters_of_performAll performed]
  have nothing : empty.counters.toList = [] := rfl
  rw [nothing, List.nil_append, List.getElem?_map, List.getElem?_eq_getElem inside,
    Option.map_some]

/-- The counter behind the last number gets the number of the first and leads to its value. -/
theorem newCounter_behind_last (first last : Nat) {others : List Nat}
    (full : (first :: others).length = registerLimit) :
    let calls := ((first :: others) ++ [last]).map Call.newCounter
    ¬ ((empty.made Call.counter? calls).map (·.1)).Nodup ∧
    (⟨0⟩, last) ∈ empty.made Call.counter? calls ∧
    ∃ b, empty.performAll calls = .ok b ∧ b.counters[0]? = some first := by
  intro calls
  have made := made_newCounters empty ((first :: others) ++ [last])
  have length : (empty.made Call.counter? calls).length = registerLimit + 1 := by
    rw [made, List.length_map, List.length_zipIdx, List.length_append, full, List.length_singleton]
  -- there is one number fewer than there are counters
  refine ⟨?_, ?_, ?_⟩
  · rw [nodup_counters_iff, length]
    exact Nat.not_succ_le_self _
  · rw [made, List.zipIdx_append, List.map_append, full]
    have none : empty.counters.size = 0 := rfl
    simp [none]
  · obtain ⟨b, performed, values⟩ := performAll_newCounters empty ((first :: others) ++ [last])
    refine ⟨b, performed, ?_⟩
    rw [← Array.getElem?_toList, values]
    rfl

end Builder

end GraphemeRegex
