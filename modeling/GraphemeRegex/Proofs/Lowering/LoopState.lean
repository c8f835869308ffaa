import GraphemeRegex.Proofs.Lowering.Computing

/-! # Loop states — the registers of a loop while it runs

A loop counts its required and its optional passes in two counters and remembers in a mark where
its last pass began. As long as register numbers do not start again from zero, no other code
touches these registers.

* `LoopRegisters.Own`: which registers a loop has in a program.
* `Loop.During`: what the registers of a loop hold while it runs.
* `Loop.Site`: a loop in a program, with everything that is known of its registers.
-/

namespace GraphemeRegex

/-- A program has no more registers of a kind than there are register numbers. -/
structure Program.FewRegisters (p : Program) : Prop where
  counters : p.counters.size ≤ Builder.registerLimit
  marks : p.marks ≤ Builder.registerLimit

/-! ## Registers of a loop -/

namespace LoopRegisters

/-- The registers are the loop's own, and its counters begin with the numbers of its passes. -/
structure Own (r : LoopRegisters) (amount : Amount) (mayBeEmpty : Bool) (p : Program)
    (c : Cursor) : Prop where
  required : ∀ id ∈ r.required, c.counters ≤ id.index ∧
    id.index < (after amount mayBeEmpty c).counters ∧ p.counters[id.index]? = some amount.low
  optional : ∀ id ∈ r.optional, c.counters ≤ id.index ∧
    id.index < (after amount mayBeEmpty c).counters ∧
    p.counters[id.index]? = some ((optionalPasses? amount).getD 0)
  progress : ∀ id ∈ r.progress, c.marks ≤ id.index ∧
    id.index < (after amount mayBeEmpty c).marks ∧ id.index < p.marks
  apart : ∀ id ∈ r.required, ∀ id' ∈ r.optional, id.index ≠ id'.index

/-- Where register numbers do not start again from zero, the registers of a loop are its own. -/
theorem numbered_own {amount : Amount} {mayBeEmpty : Bool} {p : Program} {c : Cursor}
    (held : Held amount mayBeEmpty p c) (few : p.FewRegisters) :
    (numbered amount mayBeEmpty c).Own amount mayBeEmpty p c := by
  -- a register that begins with a value has its position as its number
  have position {n v : Nat} (found : p.counters[n]? = some v) : n % Builder.registerLimit = n := by
    rcases Array.getElem?_eq_some_iff.1 found with ⟨inside, _⟩
    exact Nat.mod_eq_of_lt (Nat.lt_of_lt_of_le inside few.counters)
  constructor
  case required =>
    intro id mem
    by_cases many : 1 < amount.low
    · simp only [numbered, many, if_true, Option.mem_some_iff] at mem
      rw [← mem, position (held.required many)]
      refine ⟨Nat.le_refl _, ?_, held.required many⟩
      simp only [after, initials, many, if_true, List.length_append, List.length_singleton]
      omega
    · simp [numbered, many] at mem
  case optional =>
    intro id mem
    rcases limit : optionalPasses? amount with _ | _ | passes <;>
      simp only [numbered, limit, Option.mem_some_iff, Option.not_mem_none] at mem
    have found := held.optional limit
    rw [← mem, position found]
    refine ⟨Nat.le_add_right _ _, ?_, found⟩
    by_cases many : 1 < amount.low <;> simp [after, initials, many, limit]
  case progress =>
    intro id mem
    by_cases remember : remembers amount mayBeEmpty = true
    · have enough := held.2
      simp only [numbered, remember, if_true, Option.mem_some_iff] at mem
      rw [remember, Bool.toNat_true] at enough
      have small : c.marks % Builder.registerLimit = c.marks :=
        Nat.mod_eq_of_lt (Nat.lt_of_lt_of_le enough few.marks)
      rw [← mem, small]
      refine ⟨Nat.le_refl _, ?_, enough⟩
      simp [after, remember]
    · simp [numbered, remember] at mem
  case apart =>
    intro id mem id' mem'
    by_cases many : 1 < amount.low
    · rcases limit : optionalPasses? amount with _ | _ | passes <;>
        simp only [numbered, many, limit, if_true, Option.mem_some_iff, Option.not_mem_none]
          at mem mem'
      have found := held.optional limit
      rw [if_pos many] at found
      rw [← mem, ← mem', position (held.required many), position found]
      exact Nat.ne_of_lt (Nat.lt_succ_self _)
    · simp [numbered, many] at mem

end LoopRegisters

/-! ## Registers of a run -/

namespace Loop

/-- The counters with those of the loop at the values with which they begin. -/
def resetCounters (l : Loop) (counters : Array Nat) : Array Nat :=
  let counters := l.registers.required.elim counters (counters.setIfInBounds ·.index l.amount.low)
  l.registers.optional.elim counters
    (counters.setIfInBounds ·.index ((LoopRegisters.optionalPasses? l.amount).getD 0))

/-- The marks with that of the loop unset. -/
def resetMarks (l : Loop) (marks : Array (Option Nat)) : Array (Option Nat) :=
  l.registers.progress.elim marks (marks.setIfInBounds ·.index none)

/-- A loop in a program, with registers of its own. -/
structure Site (l : Loop) (m : Machine) (F : Fragment) (mayBeEmpty : Bool) (c c' : Cursor)
    (required pass optional : Nat) (first last : Cursor) : Prop where
  registers : l.registers = LoopRegisters.numbered l.amount mayBeEmpty c
  own : l.registers.Own l.amount mayBeEmpty m.program c
  code : l.Stands F m.program (LoopRegisters.after l.amount mayBeEmpty c) c' required pass optional
    first last
  forward : first.Le last

/-- `T` is the stack below the checkpoint that a possessive loop keeps of its own. -/
def Above (l : Loop) (T U : CheckpointStack) : Prop :=
  match l.greed with
  | .possessive => ∃ slot, U = T.push slot
  | .eager | .reluctant => U = T

/-- A loop without a limit remembers its passes if its body may be empty. -/
theorem Site.remembers_of_unlimited {l : Loop} {m : Machine} {F : Fragment} {c c' : Cursor}
    {required pass optional : Nat} {first last : Cursor}
    (site : l.Site m F true c c' required pass optional first last)
    (unlimited : LoopRegisters.optionalPasses? l.amount = none) :
    l.registers.progress.isSome := by
  have endless : l.amount.high? = none := Option.map_eq_none_iff.1 unlimited
  simp [site.registers, LoopRegisters.numbered, LoopRegisters.remembers, endless]

/-- A loop that was entered in `s₀` still has `left` required and `count` optional passes to go,
and its last pass began at `last?`. -/
structure During (l : Loop) (p : Program) (c c' : Cursor) (s₀ : State) (left count : Nat)
    (last? : Option Position) (s : State) : Prop where
  sized : s.Sized p
  spares : s₀.Spares c c' s
  required : ∀ id ∈ l.registers.required, s.counters[id.index]? = some left
  optional : ∀ id ∈ l.registers.optional, s.counters[id.index]? = some count
  progress : ∀ id ∈ l.registers.progress, s.marks[id.index]? = some (last?.map (·.offset))

variable {l : Loop} {m : Machine} {F : Fragment} {mayBeEmpty : Bool} {c c' : Cursor}
  {required pass optional : Nat} {first last : Cursor} {s₀ s t : State}
  {left left' count count' : Nat} {last? : Option Position}

/-- The code behind the body lies behind the loop's registers. -/
theorem Site.counters_le (site : l.Site m F mayBeEmpty c c' required pass optional first last) :
    (LoopRegisters.after l.amount mayBeEmpty c).counters ≤ c'.counters := by
  rw [site.code.last_counters, ← site.code.first_counters]
  exact site.forward.counters

/-- The code behind the body lies behind the loop's mark. -/
theorem Site.marks_le (site : l.Site m F mayBeEmpty c c' required pass optional first last) :
    (LoopRegisters.after l.amount mayBeEmpty c).marks ≤ c'.marks := by
  rw [site.code.last_marks, ← site.code.first_marks]
  exact site.forward.marks

/-- The places of a loop follow one another. -/
theorem Site.order (site : l.Site m F mayBeEmpty c c' required pass optional first last) :
    c.ip ≤ required ∧ required ≤ pass ∧ pass ≤ first.ip ∧ first.ip ≤ last.ip ∧
      last.ip ≤ optional ∧ optional ≤ c'.ip :=
  ⟨site.code.prologue.le, site.code.requirement.le, site.code.passHead.le, site.forward.ip,
    site.code.passTail.le, site.code.policy.le⟩

section Reset

/-- No counter is added or lost. -/
theorem size_resetCounters (l : Loop) (counters : Array Nat) :
    (l.resetCounters counters).size = counters.size := by
  unfold resetCounters
  cases l.registers.required <;> cases l.registers.optional <;> simp

theorem size_resetMarks (l : Loop) (marks : Array (Option Nat)) :
    (l.resetMarks marks).size = marks.size := by
  unfold resetMarks
  cases l.registers.progress <;> simp

variable (site : l.Site m F mayBeEmpty c c' required pass optional first last)

include site

/-- The counters of other loops are left as they are. -/
theorem getElem?_resetCounters_outside {counters : Array Nat} {n : Nat}
    (outside : n < c.counters ∨ (LoopRegisters.after l.amount mayBeEmpty c).counters ≤ n) :
    (l.resetCounters counters)[n]? = counters[n]? := by
  -- neither counter of the loop lies outside the registers of its code
  have required (id : CounterId) (mem : id ∈ l.registers.required) : id.index ≠ n := by
    have := site.own.required id mem
    omega
  have optional (id : CounterId) (mem : id ∈ l.registers.optional) : id.index ≠ n := by
    have := site.own.optional id mem
    omega
  unfold resetCounters
  cases first : l.registers.required with
  | none =>
    cases second : l.registers.optional with
    | none => rfl
    | some id => exact Array.getElem?_setIfInBounds_ne (optional id second)
  | some id =>
    have kept : (counters.setIfInBounds id.index l.amount.low)[n]? = counters[n]? :=
      Array.getElem?_setIfInBounds_ne (required id first)
    cases second : l.registers.optional with
    | none => exact kept
    | some id' => exact (Array.getElem?_setIfInBounds_ne (optional id' second)).trans kept

/-- The marks of other loops, too. -/
theorem getElem?_resetMarks_outside {marks : Array (Option Nat)} {n : Nat}
    (outside : n < c.marks ∨ (LoopRegisters.after l.amount mayBeEmpty c).marks ≤ n) :
    (l.resetMarks marks)[n]? = marks[n]? := by
  unfold resetMarks
  cases progress : l.registers.progress with
  | none => rfl
  | some id =>
    have := site.own.progress id progress
    exact Array.getElem?_setIfInBounds_ne (by omega)

/-- The counter of required passes begins with their number. -/
theorem getElem?_resetCounters_required (sized : s.Sized m.program) {id : CounterId}
    (mem : id ∈ l.registers.required) :
    (l.resetCounters s.counters)[id.index]? = some l.amount.low := by
  have inside : id.index < s.counters.size := by
    rw [sized.counters]
    exact (Array.getElem?_eq_some_iff.1 (site.own.required id mem).2.2).1
  have set := Array.getElem?_setIfInBounds_self_of_lt (a := l.amount.low) inside
  unfold resetCounters
  rw [mem]
  -- the other counter that is reset is another one
  cases second : l.registers.optional with
  | none => exact set
  | some id' =>
    have apart := site.own.apart id mem id' second
    exact (Array.getElem?_setIfInBounds_ne apart.symm).trans set

/-- The counter of optional passes begins with the number of those. -/
theorem getElem?_resetCounters_optional (sized : s.Sized m.program) {id : CounterId}
    (mem : id ∈ l.registers.optional) :
    (l.resetCounters s.counters)[id.index]? =
      some ((LoopRegisters.optionalPasses? l.amount).getD 0) := by
  have inside : id.index < s.counters.size := by
    rw [sized.counters]
    exact (Array.getElem?_eq_some_iff.1 (site.own.optional id mem).2.2).1
  unfold resetCounters
  rw [mem]
  refine Array.getElem?_setIfInBounds_self_of_lt ?_
  -- that the other counter has been reset before does not change the number of counters
  cases l.registers.required <;> simpa using inside

/-- The mark is unset. -/
theorem getElem?_resetMarks_progress (sized : s.Sized m.program) {id : MarkId}
    (mem : id ∈ l.registers.progress) : (l.resetMarks s.marks)[id.index]? = some none := by
  rcases site.own.progress id mem with ⟨_, _, inside⟩
  rw [← sized.marks] at inside
  unfold resetMarks
  rw [mem]
  exact Array.getElem?_setIfInBounds_self_of_lt inside

end Reset

namespace During

/-- The state of the registers does not depend on the rest of the state. -/
theorem of_same (h : l.During m.program c c' s₀ left count last? s)
    (counters : t.counters = s.counters) (marks : t.marks = s.marks) :
    l.During m.program c c' s₀ left count last? t where
  sized := by
    constructor
    · rw [counters]
      exact h.sized.counters
    · rw [marks]
      exact h.sized.marks
  spares := by
    constructor
    · rw [counters]
      exact h.spares.counters
    · rw [marks]
      exact h.spares.marks
  required := by
    rw [counters]
    exact h.required
  optional := by
    rw [counters]
    exact h.optional
  progress := by
    rw [marks]
    exact h.progress

variable (site : l.Site m F mayBeEmpty c c' required pass optional first last)

include site

/-- Registers that begin anew hold what a loop begins with. -/
theorem of_reset (sized : s₀.Sized m.program) (counters : s.counters = l.resetCounters s₀.counters)
    (marks : s.marks = l.resetMarks s₀.marks) :
    l.During m.program c c' s₀ l.amount.low
      ((LoopRegisters.optionalPasses? l.amount).getD 0) none s where
  sized := by
    constructor
    · rw [counters, size_resetCounters]
      exact sized.counters
    · rw [marks, size_resetMarks]
      exact sized.marks
  spares := by
    constructor
    · intro n outside
      rw [counters, getElem?_resetCounters_outside site]
      -- what lies outside of the loop and its body lies outside of its own registers
      exact outside.imp_right (Nat.le_trans site.counters_le ·)
    · intro n outside
      rw [marks, getElem?_resetMarks_outside site]
      exact outside.imp_right (Nat.le_trans site.marks_le ·)
  required id mem := by rw [counters, getElem?_resetCounters_required site sized mem]
  optional id mem := by rw [counters, getElem?_resetCounters_optional site sized mem]
  progress id mem := by
    rw [marks, getElem?_resetMarks_progress site sized mem]
    rfl

/-- A counter that belongs to the loop is set. -/
theorem spares_set (h : s₀.Spares c c' s) {n v : Nat} (low : c.counters ≤ n)
    (high : n < (LoopRegisters.after l.amount mayBeEmpty c).counters)
    (counters : t.counters = s.counters.setIfInBounds n v) (marks : t.marks = s.marks) :
    s₀.Spares c c' t where
  counters k outside := by
    have := site.counters_le
    rw [counters, Array.getElem?_setIfInBounds_ne (by omega), h.counters k outside]
  marks := by
    rw [marks]
    exact h.marks

/-- A required pass is counted, and the other registers are as before. -/
theorem set_required (h : l.During m.program c c' s₀ left count last? s) {id : CounterId}
    (mem : id ∈ l.registers.required)
    (counters : t.counters = s.counters.setIfInBounds id.index left') (marks : t.marks = s.marks) :
    l.During m.program c c' s₀ left' count last? t := by
  rcases site.own.required id mem with ⟨low, high, initial⟩
  rcases Array.getElem?_eq_some_iff.1 initial with ⟨inside, _⟩
  constructor
  case sized =>
    constructor
    · simp [counters, h.sized.counters]
    · rw [marks]
      exact h.sized.marks
  case spares => exact spares_set site h.spares low high counters marks
  case required =>
    intro id' mem'
    obtain rfl : id = id' := Option.mem_unique mem mem'
    rw [← h.sized.counters] at inside
    simp [counters, inside]
  case optional =>
    intro id' mem'
    -- the two counters of a loop are different
    rw [counters, Array.getElem?_setIfInBounds_ne (site.own.apart id mem id' mem')]
    exact h.optional id' mem'
  case progress =>
    rw [marks]
    exact h.progress

/-- An optional pass is counted. -/
theorem set_optional (h : l.During m.program c c' s₀ left count last? s) {id : CounterId}
    (mem : id ∈ l.registers.optional)
    (counters : t.counters = s.counters.setIfInBounds id.index count') (marks : t.marks = s.marks) :
    l.During m.program c c' s₀ left count' last? t := by
  rcases site.own.optional id mem with ⟨low, high, _⟩
  rcases Array.getElem?_eq_some_iff.1 (h.optional id mem) with ⟨inside, _⟩
  constructor
  case sized =>
    constructor
    · simp [counters, h.sized.counters]
    · rw [marks]
      exact h.sized.marks
  case spares => exact spares_set site h.spares low high counters marks
  case required =>
    intro id' mem'
    -- the counter of the required passes is another one
    rw [counters, Array.getElem?_setIfInBounds_ne (site.own.apart id' mem' id mem).symm]
    exact h.required id' mem'
  case optional =>
    intro id' mem'
    obtain rfl : id = id' := Option.mem_unique mem mem'
    simp [counters, inside]
  case progress =>
    rw [marks]
    exact h.progress

/-- The mark says where the pass began. -/
theorem set_progress (h : l.During m.program c c' s₀ left count last? s) {id : MarkId}
    (mem : id ∈ l.registers.progress) (last'? : Option Position)
    (marks : t.marks = s.marks.setIfInBounds id.index (last'?.map (·.offset)))
    (counters : t.counters = s.counters) : l.During m.program c c' s₀ left count last'? t := by
  rcases site.own.progress id mem with ⟨low, high, known⟩
  constructor
  case sized =>
    constructor
    · rw [counters]
      exact h.sized.counters
    · simp [marks, h.sized.marks]
  case spares =>
    constructor
    · rw [counters]
      exact h.spares.counters
    · intro k outside
      -- the mark is one of the loop, so it does not lie outside
      have := site.marks_le
      rw [marks, Array.getElem?_setIfInBounds_ne (by omega), h.spares.marks k outside]
  case required =>
    rw [counters]
    exact h.required
  case optional =>
    rw [counters]
    exact h.optional
  case progress =>
    intro id' mem'
    obtain rfl : id = id' := Option.mem_unique mem mem'
    rw [← h.sized.marks] at known
    simp [marks, known]

/-- The body of a loop leaves the registers of the loop alone. -/
theorem body (h : l.During m.program c c' s₀ left count last? s) (sized : t.Sized m.program)
    (spares : s.Spares first last t) : l.During m.program c c' s₀ left count last? t := by
  have counters := site.code.first_counters
  have marks := site.code.first_marks
  constructor
  case sized => exact sized
  case spares =>
    -- the body's registers come behind those of the loop
    refine h.spares.trans ⟨?_, ?_⟩
    · intro n outside
      refine spares.counters n ?_
      rw [site.code.last_counters] at outside
      refine outside.imp_left ?_
      intro low
      have := (LoopRegisters.le_after l.amount mayBeEmpty c).counters
      omega
    · intro n outside
      refine spares.marks n ?_
      rw [site.code.last_marks] at outside
      refine outside.imp_left ?_
      intro low
      have := (LoopRegisters.le_after l.amount mayBeEmpty c).marks
      omega
  case required =>
    intro id mem
    rcases site.own.required id mem with ⟨_, high, _⟩
    rw [spares.counters id.index (.inl (by omega))]
    exact h.required id mem
  case optional =>
    intro id mem
    rcases site.own.optional id mem with ⟨_, high, _⟩
    rw [spares.counters id.index (.inl (by omega))]
    exact h.optional id mem
  case progress =>
    intro id mem
    rcases site.own.progress id mem with ⟨_, high, _⟩
    rw [spares.marks id.index (.inl (by omega))]
    exact h.progress id mem

end During

end Loop

end GraphemeRegex
