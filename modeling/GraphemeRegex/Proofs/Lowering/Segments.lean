import GraphemeRegex.Lowering.Repetition
import GraphemeRegex.Proofs.Lowering.Writing

/-! # Segments — the code of a loop in pieces

The code of a loop is five lists of instructions around its body, with a label between any two of
them. The lists depend on the amount, the greed and the registers of the loop only.

* `LoopRegisters.allocate_eq_ok`: which registers a loop gets.
* `Loop`: what the code of a loop depends on, and the five segments.
* `emitLoop_eq`: the code of a loop is its segments.
-/

namespace GraphemeRegex

open Emitter

/-! ## Registers -/

namespace LoopRegisters

/-- The values with which the counters of a loop begin. -/
def initials (amount : Amount) : List Nat :=
  (if 1 < amount.low then [amount.low] else []) ++
    match optionalPasses? amount with
    | some (passes + 1) => [passes + 1]
    | _ => []

/-- Whether a loop remembers the position of its last pass. -/
def remembers (amount : Amount) (mayBeEmpty : Bool) : Bool :=
  amount.high?.isNone && mayBeEmpty

/-- The registers of a loop that is written at a cursor. -/
def numbered (amount : Amount) (mayBeEmpty : Bool) (c : Cursor) : LoopRegisters where
  required :=
    if 1 < amount.low then some ⟨c.counters % Builder.registerLimit⟩ else none
  optional :=
    match optionalPasses? amount with
    | some (_ + 1) =>
      some ⟨(c.counters + if 1 < amount.low then 1 else 0) % Builder.registerLimit⟩
    | _ => none
  progress :=
    if remembers amount mayBeEmpty then some ⟨c.marks % Builder.registerLimit⟩ else none

/-- The builder with the registers of a loop. -/
def allocated (amount : Amount) (mayBeEmpty : Bool) (b : Builder) : Builder :=
  { b with
    counters := b.counters ++ (initials amount).toArray
    marks := b.marks + (remembers amount mayBeEmpty).toNat }

/-- A loop that is written gets the registers of its cursor, and the builder grows by just these. -/
theorem allocate_eq_ok (amount : Amount) (mayBeEmpty : Bool) (b : Builder) :
    allocate amount mayBeEmpty b =
      .ok (numbered amount mayBeEmpty b.cursor, allocated amount mayBeEmpty b) := by
  have push_push (a : Array Nat) (x y : Nat) : (a.push x).push y = a ++ #[x, y] :=
    Array.toList_inj.1 (by simp)
  unfold allocate numbered allocated initials
  by_cases many : 1 < amount.low <;> rcases optionalPasses? amount with _ | _ | passes <;>
    rcases remember : remembers amount mayBeEmpty with _ | _ <;> rw [remembers] at remember <;>
    simp [many, remember, push_push, newCounter, newMark, make, Builder.newCounter,
      Builder.newMark, Builder.cursor, bind_apply, map_apply, pure_apply, Except.bind]

/-- The cursor behind the registers of a loop. -/
def after (amount : Amount) (mayBeEmpty : Bool) (c : Cursor) : Cursor :=
  ⟨c.ip, c.counters + (initials amount).length,
    c.marks + (remembers amount mayBeEmpty).toNat⟩

/-- Registers are only ever added. -/
theorem le_after (amount : Amount) (mayBeEmpty : Bool) (c : Cursor) :
    c.Le (after amount mayBeEmpty c) :=
  ⟨Nat.le_refl _, Nat.le_add_right _ _, Nat.le_add_right _ _⟩

/-- A program has the registers of a loop that is written at a cursor. -/
def Held (amount : Amount) (mayBeEmpty : Bool) (p : Program) (c : Cursor) : Prop :=
  (∀ n v : Nat, (initials amount)[n]? = some v → p.counters[c.counters + n]? = some v) ∧
    c.marks + (remembers amount mayBeEmpty).toNat ≤ p.marks

/-- The counter of the required passes begins with their number. -/
theorem Held.required {amount : Amount} {mayBeEmpty : Bool} {p : Program} {c : Cursor}
    (held : Held amount mayBeEmpty p c) (many : 1 < amount.low) :
    p.counters[c.counters]? = some amount.low :=
  held.1 0 amount.low (by simp [initials, many])

/-- The counter of the optional passes stands behind the one of the required passes, if there is
one. -/
theorem Held.optional {amount : Amount} {mayBeEmpty : Bool} {p : Program} {c : Cursor}
    (held : Held amount mayBeEmpty p c) {passes : Nat}
    (limit : optionalPasses? amount = some (passes + 1)) :
    p.counters[c.counters + if 1 < amount.low then 1 else 0]? = some (passes + 1) := by
  refine held.1 _ _ ?_
  by_cases many : 1 < amount.low <;> simp [initials, many, limit]

/-- The registers are among the first `counters` counters and the first `marks` marks. -/
structure Within (r : LoopRegisters) (counters marks : Nat) : Prop where
  required : ∀ id ∈ r.required, id.index < counters
  optional : ∀ id ∈ r.optional, id.index < counters
  progress : ∀ id ∈ r.progress, id.index < marks

/-- A loop uses registers that exist, even where numbers start again from zero. -/
theorem numbered_within (amount : Amount) (mayBeEmpty : Bool) (c : Cursor) :
    (numbered amount mayBeEmpty c).Within (after amount mayBeEmpty c).counters
      (after amount mayBeEmpty c).marks := by
  have wraps (n : Nat) : n % Builder.registerLimit ≤ n := Nat.mod_le _ _
  unfold numbered after initials
  constructor
  -- a number that starts again from zero only gets smaller
  case required =>
    intro id mem
    by_cases many : 1 < amount.low
    · simp only [many, if_true, Option.mem_some_iff] at mem
      have := wraps c.counters
      simp only [← mem, many, if_true, List.length_append, List.length_singleton]
      omega
    · simp [many] at mem
  case optional =>
    intro id mem
    rcases passes : optionalPasses? amount with _ | _ | passes <;>
      simp only [passes, Option.mem_some_iff, Option.not_mem_none] at mem
    -- a counter of optional passes is there only if their number is limited and not zero
    have := wraps (c.counters + if 1 < amount.low then 1 else 0)
    rw [← mem, List.length_append, List.length_singleton]
    by_cases many : 1 < amount.low <;>
      simp only [many, if_true, if_false, List.length_singleton, List.length_nil] at * <;> omega
  case progress =>
    intro id mem
    by_cases remember : remembers amount mayBeEmpty = true
    · simp only [remember, if_true, Option.mem_some_iff] at mem
      have := wraps c.marks
      simp only [← mem, remember, Bool.toNat_true]
      omega
    · simp [remember] at mem

/-- A loop only uses registers that its program has. -/
theorem Held.within {amount : Amount} {mayBeEmpty : Bool} {p : Program} {c : Cursor}
    (held : Held amount mayBeEmpty p c) :
    (numbered amount mayBeEmpty c).Within p.counters.size p.marks := by
  -- a number that has started again from zero is even smaller
  have inside {n v : Nat} (found : p.counters[n]? = some v) :
      n % Builder.registerLimit < p.counters.size := by
    rcases Array.getElem?_eq_some_iff.1 found with ⟨inside, _⟩
    exact Nat.lt_of_le_of_lt (Nat.mod_le _ _) inside
  constructor
  case required =>
    intro id mem
    by_cases many : 1 < amount.low
    · simp only [numbered, many, if_true, Option.mem_some_iff] at mem
      rw [← mem]
      exact inside (held.required many)
    · simp [numbered, many] at mem
  case optional =>
    intro id mem
    rcases limit : optionalPasses? amount with _ | _ | passes <;>
      simp only [numbered, limit, Option.mem_some_iff, Option.not_mem_none] at mem
    rw [← mem]
    exact inside (held.optional limit)
  case progress =>
    intro id mem
    by_cases remember : remembers amount mayBeEmpty = true
    · have enough := held.2
      simp only [numbered, remember, if_true, Option.mem_some_iff] at mem
      rw [remember, Bool.toNat_true] at enough
      rw [← mem]
      exact Nat.lt_of_le_of_lt (Nat.mod_le _ _) enough
    · simp [numbered, remember] at mem

end LoopRegisters

/-- In a draft, the registers of a loop are held by the finished program. -/
theorem Builder.Drafts.yields_allocate {a b : Builder} {pending : List Label} {facts : Facts}
    (d : a.Drafts b pending facts) (amount : Amount) (mayBeEmpty : Bool) :
    (LoopRegisters.allocate amount mayBeEmpty).Yields b fun r b' =>
      r = LoopRegisters.numbered amount mayBeEmpty b.cursor ∧ b.Grows b' ∧
        b'.cursor = LoopRegisters.after amount mayBeEmpty b.cursor ∧
        a.Drafts b' pending fun p place =>
          facts p place ∧ LoopRegisters.Held amount mayBeEmpty p b.cursor := by
  have made := drafts_registers b (LoopRegisters.initials amount)
    (LoopRegisters.remembers amount mayBeEmpty).toNat
  refine yields_of_eq_ok (LoopRegisters.allocate_eq_ok amount mayBeEmpty b)
    ⟨rfl, made.grows, ?_, d.append made⟩
  simp [LoopRegisters.allocated, LoopRegisters.after, cursor]

/-! ## Segments -/

/-- What the code around the body of a loop depends on. -/
structure Loop where
  amount : Amount
  greed : Greed
  registers : LoopRegisters

namespace Loop

variable {α : Type} (l : Loop)

/-- An instruction that only a possessive loop has. -/
def ifPossessive (i : Instruction α) : List (Instruction α) :=
  if l.greed == .possessive then [i] else []

/-- In front of the loop: its registers begin anew. -/
def prologue : List (Instruction α) :=
  l.registers.required.toList.map .reset ++ l.registers.optional.toList.map .reset ++
    l.registers.progress.toList.map .unmark ++ l.ifPossessive .savePlaceholder

/-- At `required`: whether the required passes are done. -/
def requirement (optional : α) : List (Instruction α) :=
  match l.registers.required with
  | some counter => [.condBranch optional counter]
  | none => if l.amount.low == 0 then [.branch optional] else []

/-- In front of the body. -/
def passHead : List (Instruction α) :=
  l.registers.progress.toList.map .mark ++ l.ifPossessive .fence

/-- Behind the body. -/
def passTail (required : α) : List (Instruction α) :=
  l.ifPossessive (.cut false) ++ if 1 < l.amount.low then [.branch required] else []

/-- At `optional`: whether the optional passes are done. -/
def allowance (exit : α) : List (Instruction α) :=
  match l.registers.optional with
  | some counter => [.condBranch exit counter]
  | none => if LoopRegisters.optionalPasses? l.amount == some 0 then [.branch exit] else []

/-- The choice between one more pass and the exit. -/
def choice (pass exit : α) : Instruction α :=
  match l.greed with
  | .eager | .possessive => .split pass exit
  | .reluctant => .save pass

/-- At `optional`: whether there is one more pass. -/
def policy (pass exit : α) : List (Instruction α) :=
  l.ifPossessive .clear ++ l.registers.progress.toList.map (.checkProgress exit) ++
    l.allowance exit ++ [l.choice pass exit]

/-- The operands of an instruction are among some targets and the registers of the loop. -/
structure Uses (targets : List α) (i : Instruction α) : Prop where
  targets : ∀ a ∈ i.targets, a ∈ targets
  counters : ∀ r ∈ i.counters, r ∈ l.registers.required ∨ r ∈ l.registers.optional
  marks : ∀ r ∈ i.marks, r ∈ l.registers.progress
  strings : i.strings = []

/-- The instructions in front of a loop jump nowhere and use its registers only. Each of the lemmas
up to `uses_policy` says the same of one segment, with its targets. -/
theorem uses_prologue (i : Instruction α) (mem : i ∈ l.prologue) : l.Uses [] i := by
  simp only [prologue, ifPossessive, List.mem_append, List.mem_map, Option.mem_toList,
    List.mem_ite_nil_right, List.mem_singleton] at mem
  rcases mem with ((⟨r, mem, rfl⟩ | ⟨r, mem, rfl⟩) | ⟨r, mem, rfl⟩) | ⟨_, rfl⟩ <;>
    constructor <;> simp_all [Instruction.targets, Instruction.counters, Instruction.marks,
      Instruction.strings]

theorem uses_requirement (optional : α) (i : Instruction α) (mem : i ∈ l.requirement optional) :
    l.Uses [optional] i := by
  unfold requirement at mem
  split at mem
  · rw [List.mem_singleton] at mem
    subst mem
    constructor <;> simp_all [Instruction.targets, Instruction.counters, Instruction.marks,
      Instruction.strings]
  · rcases by simpa using mem with ⟨_, rfl⟩
    constructor <;> simp [Instruction.targets, Instruction.counters, Instruction.marks,
      Instruction.strings]

theorem uses_passHead (i : Instruction α) (mem : i ∈ l.passHead) : l.Uses [] i := by
  simp only [passHead, ifPossessive, List.mem_append, List.mem_map, Option.mem_toList,
    List.mem_ite_nil_right, List.mem_singleton] at mem
  rcases mem with ⟨r, mem, rfl⟩ | ⟨_, rfl⟩ <;>
    constructor <;> simp_all [Instruction.targets, Instruction.counters, Instruction.marks,
      Instruction.strings]

theorem uses_passTail (required : α) (i : Instruction α) (mem : i ∈ l.passTail required) :
    l.Uses [required] i := by
  simp only [passTail, ifPossessive, List.mem_append, List.mem_ite_nil_right,
    List.mem_singleton] at mem
  rcases mem with ⟨_, rfl⟩ | ⟨_, rfl⟩ <;>
    constructor <;> simp [Instruction.targets, Instruction.counters, Instruction.marks,
      Instruction.strings]

theorem uses_allowance (exit : α) (i : Instruction α) (mem : i ∈ l.allowance exit) :
    l.Uses [exit] i := by
  unfold allowance at mem
  split at mem
  · rw [List.mem_singleton] at mem
    subst mem
    constructor <;> simp_all [Instruction.targets, Instruction.counters, Instruction.marks,
      Instruction.strings]
  · rcases by simpa using mem with ⟨_, rfl⟩
    constructor <;> simp [Instruction.targets, Instruction.counters, Instruction.marks,
      Instruction.strings]

theorem uses_policy (pass exit : α) (i : Instruction α) (mem : i ∈ l.policy pass exit) :
    l.Uses [pass, exit] i := by
  simp only [policy, ifPossessive, List.mem_append, List.mem_map, Option.mem_toList,
    List.mem_ite_nil_right, List.mem_singleton] at mem
  rcases mem with ((⟨_, rfl⟩ | ⟨r, mem, rfl⟩) | mem) | rfl
  · constructor <;> simp [Instruction.targets, Instruction.counters, Instruction.marks,
      Instruction.strings]
  · constructor <;> simp_all [Instruction.targets, Instruction.counters, Instruction.marks,
      Instruction.strings]
  · rcases l.uses_allowance exit i mem with ⟨targets, counters, marks, strings⟩
    exact ⟨fun a found => List.mem_cons_of_mem _ (targets a found), counters, marks, strings⟩
  · unfold choice
    split <;> constructor <;>
      simp [Instruction.targets, Instruction.counters, Instruction.marks, Instruction.strings]

/-- A builder that made the registers of the loop and the targets allows the instruction. -/
theorem Uses.allows {l : Loop} {targets : List Label} {i : Instruction Label} {b : Builder}
    (uses : l.Uses targets i) (within : l.registers.Within b.counters.size b.marks)
    (known : ∀ a ∈ targets, a.index < b.labels.size) : b.Allows i where
  targets a mem := known a (uses.targets a mem)
  counters r mem := (uses.counters r mem).elim (within.required r) (within.optional r)
  marks r mem := within.progress r (uses.marks r mem)

section Map

variable {β : Type} (f : α → β)

/-- Resolving labels changes the targets of the segments and nothing else; there are none in front
of the loop. -/
@[simp] theorem map_prologue : (l.prologue.map (·.mapTargets f)) = l.prologue := by
  rcases l with ⟨_, _ | _ | _, ⟨_ | _, _ | _, _ | _⟩⟩ <;> rfl

@[simp] theorem map_requirement (optional : α) :
    (l.requirement optional).map (·.mapTargets f) = l.requirement (f optional) := by
  unfold requirement
  split
  · rfl
  · split <;> rfl

@[simp] theorem map_passHead : (l.passHead.map (·.mapTargets f)) = l.passHead := by
  rcases l with ⟨_, _ | _ | _, ⟨_ | _, _ | _, _ | _⟩⟩ <;> rfl

@[simp] theorem map_passTail (required : α) :
    (l.passTail required).map (·.mapTargets f) = l.passTail (f required) := by
  unfold passTail ifPossessive
  split <;> split <;> rfl

@[simp] theorem map_allowance (exit : α) :
    (l.allowance exit).map (·.mapTargets f) = l.allowance (f exit) := by
  unfold allowance
  split
  · rfl
  · split <;> rfl

@[simp] theorem map_policy (pass exit : α) :
    (l.policy pass exit).map (·.mapTargets f) = l.policy (f pass) (f exit) := by
  rw [policy, List.map_append, List.map_append, List.map_append, map_allowance]
  rcases l with ⟨_, _ | _ | _, ⟨_ | _, _ | _, _ | _⟩⟩ <;> rfl

end Map

/-- The code of a loop with a body, segment by segment. -/
def emit (body : Emitter Unit) (required pass optional exit : Label) : Emitter Unit := do
  emitList l.prologue
  place required
  emitList (l.requirement optional)
  place pass
  emitList l.passHead
  body
  emitList (l.passTail required)
  place optional
  emitList (l.policy pass exit)
  place exit

end Loop

/-- An instruction on a condition is a list of at most one. -/
theorem emitIf_eq (condition : Bool) (i : Instruction Label) :
    emitIf condition i = emitList (if condition then [i] else []) := by
  cases condition <;> simp [emitIf]

/-- The code of a loop is its segments, written behind the labels and the registers. -/
theorem emitLoop_eq (amount : Amount) (greed : Greed) (mayBeEmpty : Bool) (body : Emitter Unit) :
    emitLoop amount greed mayBeEmpty body = (do
      let required ← newLabel
      let pass ← newLabel
      let optional ← newLabel
      let exit ← newLabel
      let registers ← LoopRegisters.allocate amount mayBeEmpty
      Loop.emit ⟨amount, greed, registers⟩ body required pass optional exit) := by
  unfold emitLoop
  refine bind_congr fun required => bind_congr fun pass => bind_congr fun optional =>
    bind_congr fun exit => bind_congr fun registers => ?_
  -- which instructions are left out depends on the registers and the greed only
  rcases registers with ⟨_ | required, _ | optional, _ | progress⟩ <;> cases greed <;>
    simp [Loop.emit, Loop.prologue, Loop.requirement, Loop.passHead, Loop.passTail,
      Loop.allowance, Loop.choice, Loop.policy, Loop.ifPossessive, LoopRegisters.reset, emitIf_eq,
      emitList, emitList_append]

end GraphemeRegex
