import GraphemeRegex.Proofs.Lowering.Emission
import GraphemeRegex.Proofs.Lowering.LoopState
import GraphemeRegex.Proofs.Program.Numbering

/-! # Ownership — the registers of the loops of a program

The loops of a pattern get their registers one after the other, each before the loops in its body.
As long as there are enough register numbers, no two loops share a register, and a counter begins
anew with the bound of its own loop.

* `Pattern.repeats`: the loops of a pattern.
* `Repeat.sites`: the registers that they get.
* `Program.Hosts`: a program holds the code and the registers of loops.
* `Pattern.hosts_fragment`: the program of a pattern holds those of its loops.
* `Builder.registers_unshared`: no register is shared, neither by calls nor by loops.
-/

namespace GraphemeRegex

/-! ## Loops of a pattern -/

/-- A loop as it stands in a pattern. -/
structure Repeat where
  amount : Amount
  greed : Greed
  body : Pattern

namespace Pattern

mutual

/-- The loops of a pattern, each before the loops in its body. A loop that leaves nothing to repeat
has no code and does not count. -/
def repeats : Pattern → List Repeat
  | alternation branches => repeatsAll branches
  | concatenation items => repeatsAll items
  | group _ body | transformed _ _ body => repeats body
  | repetition amount greed body =>
    if amount.isDegenerate then [] else ⟨amount, greed, body⟩ :: repeats body
  | quote _ | trivia _ | atom _ | leveled _ _ | custom _ _ | empty => []

/-- The loops of the patterns of a list. -/
def repeatsAll : List Pattern → List Repeat
  | [] => []
  | t :: ts => repeats t ++ repeatsAll ts

end

end Pattern

/-! ## Registers of loops -/

/-- The registers in front of a point of a program. -/
def Cursor.registers (c : Cursor) : Cursor := { c with ip := 0 }

namespace LoopRegisters

/-- Whether a counter is one of the registers. -/
def HasCounter (r : LoopRegisters) (id : CounterId) : Prop := id ∈ r.required ∨ id ∈ r.optional

/-- Two loops share no register. -/
structure Apart (r r' : LoopRegisters) : Prop where
  counters : ∀ id, r.HasCounter id → ¬ r'.HasCounter id
  marks : ∀ id ∈ r.progress, id ∉ r'.progress

end LoopRegisters

namespace Repeat

/-- The registers of a loop that is written behind the registers `c`. -/
def registers (r : Repeat) (c : Cursor) : LoopRegisters :=
  .numbered r.amount r.body.mayBeEmpty c

/-- What is behind the registers of a loop. -/
def after (r : Repeat) (c : Cursor) : Cursor := LoopRegisters.after r.amount r.body.mayBeEmpty c

/-- What is behind the registers of several loops. -/
def afterAll (c : Cursor) : List Repeat → Cursor
  | [] => c
  | r :: rs => afterAll (r.after c) rs

/-- Loops with the registers that they get, one loop after the other. -/
def sites (c : Cursor) : List Repeat → List (Repeat × LoopRegisters)
  | [] => []
  | r :: rs => (r, r.registers c) :: sites (r.after c) rs

/-- Loops behind other loops get the registers behind theirs. -/
theorem afterAll_append (c : Cursor) (rs rs' : List Repeat) :
    afterAll c (rs ++ rs') = afterAll (afterAll c rs) rs' := by
  induction rs generalizing c with
  | nil => rfl
  | cons r rs ih => exact ih (r.after c)

/-- The code of a loop with the given registers stands somewhere in a program. -/
def StandsIn (r : Repeat) (registers : LoopRegisters) (level : MatchLevel) (p : Program) : Prop :=
  ∃ (c c' first last : Cursor) (required pass optional : Nat),
    Loop.Stands ⟨r.amount, r.greed, registers⟩ (r.body.fragment level) p c c' required pass optional
      first last

end Repeat

open Repeat

/-! ## Programs with loops -/

/-- A program holds the code of loops and the registers that they get behind the registers `c`. -/
def Program.Hosts (p : Program) (level : MatchLevel) : Cursor → List Repeat → Prop
  | _, [] => True
  | c, r :: rs => LoopRegisters.Held r.amount r.body.mayBeEmpty p c ∧
      r.StandsIn (r.registers c) level p ∧ p.Hosts level (r.after c) rs

/-- A program holds the loops of two parts if it holds those of each, with the registers where they
go on. -/
theorem Program.hosts_append {p : Program} {level : MatchLevel} {c : Cursor}
    {rs rs' : List Repeat} :
    p.Hosts level c (rs ++ rs') ↔ p.Hosts level c rs ∧ p.Hosts level (afterAll c rs) rs' := by
  induction rs generalizing c with
  | nil => simp [Hosts, afterAll]
  | cons r rs ih => simp only [List.cons_append, Hosts, afterAll, ih, and_assoc]

namespace Fragment

/-- A program with this code holds the loops and their registers, and no others. -/
def Hosts (F : Fragment) (level : MatchLevel) (rs : List Repeat) : Prop :=
  ∀ (p : Program) (c c' : Cursor), F p c c' →
    p.Hosts level c.registers rs ∧ c'.registers = afterAll c.registers rs

variable {F G : Fragment} {level : MatchLevel} {rs rs' : List Repeat}

/-- No code has no loops. -/
theorem hosts_nothing : nothing.Hosts level [] := by
  rintro p c _ rfl
  exact ⟨trivial, rfl⟩

theorem hosts_never : never.Hosts level rs := fun _ _ _ h => absurd h id

/-- Straight code has no loops. -/
theorem hosts_code (l : List (Instruction Nat)) : (code l).Hosts level [] := by
  rintro p c _ ⟨_, rfl⟩
  exact ⟨trivial, rfl⟩

theorem hosts_string (text : Text) (own : MatchLevel) : (string text own).Hosts level [] := by
  rintro p c c' ⟨id, _, h⟩
  exact hosts_code _ p c c' h

/-- The second part gets the registers behind those of the first one. -/
theorem hosts_append (hF : F.Hosts level rs) (hG : G.Hosts level rs') :
    (F.append G).Hosts level (rs ++ rs') := by
  rintro p c c' ⟨middle, h, h'⟩
  rcases hF p c middle h with ⟨hosts, after⟩
  rcases hG p middle c' h' with ⟨hosts', after'⟩
  rw [after] at hosts' after'
  exact ⟨Program.hosts_append.2 ⟨hosts, hosts'⟩, by rw [after', afterAll_append]⟩

/-- Instructions around a body have no loops of their own. -/
theorem hosts_around (head tail : List (Instruction Nat)) (hF : F.Hosts level rs) :
    ((code head).append (F.append (code tail))).Hosts level rs := by
  have h := hosts_append (hosts_code head) (hosts_append hF (hosts_code tail))
  rwa [List.nil_append, List.append_nil] at h

theorem hosts_negated (hF : F.Hosts level rs) : F.negated.Hosts level rs := fun p c c' h =>
  hosts_around _ _ hF p c c' h

/-- The jumps between branches get no registers. -/
theorem hosts_branches_cons {done : Nat} {Fs : List Fragment} (hF : F.Hosts level rs)
    (hFs : (branches done (G :: Fs)).Hosts level rs') :
    (branches done (F :: G :: Fs)).Hosts level (rs ++ rs') := by
  rintro p c c' ⟨last, _, body, _, later⟩
  rcases hF p _ last body with ⟨hosts, after⟩
  rcases hFs p _ c' later with ⟨hosts', after'⟩
  have jump : (last.advance 1).registers = afterAll c.registers rs := after
  rw [jump] at hosts' after'
  exact ⟨Program.hosts_append.2 ⟨hosts, hosts'⟩, by rw [after', afterAll_append]⟩

/-- A loop comes before the loops in its body. -/
theorem hosts_repeated (r : Repeat) (body : (r.body.fragment level).Hosts level rs) :
    (repeated r.amount r.greed r.body.mayBeEmpty (r.body.fragment level)).Hosts level
      (r :: rs) := by
  rintro p c c' ⟨held, required, pass, optional, first, last, code⟩
  rcases body p first last code.body with ⟨hosts, after⟩
  have inside : first.registers = r.after c.registers := by
    simp [Cursor.registers, Repeat.after, LoopRegisters.after, code.first_counters,
      code.first_marks]
  have behind : c'.registers = last.registers := by
    simp [Cursor.registers, code.last_counters, code.last_marks]
  rw [inside] at hosts after
  exact ⟨⟨held, ⟨_, _, _, _, _, _, _, code⟩, hosts⟩, behind.trans after⟩

end Fragment

open Fragment

/-- A group has the loops of its body. -/
theorem GroupKind.hosts_fragment {F : Fragment} {level : MatchLevel} {rs : List Repeat}
    (kind : GroupKind) (hF : F.Hosts level rs) : (kind.fragment F).Hosts level rs := by
  cases kind <;>
    first
    | exact hF
    | exact hosts_around _ _ hF
    | exact hosts_negated hF
    | exact hosts_never

/-- An atom has none. -/
theorem Atom.hosts_fragment (level : MatchLevel) (a : Atom) :
    (a.fragment level).Hosts level [] := by
  cases a <;> cases level <;> first | exact hosts_code _ | exact hosts_never

namespace Pattern

mutual

/-- The code of a pattern holds the loops of the pattern. -/
theorem hosts_fragment (level : MatchLevel) :
    ∀ t : Pattern, (t.fragment level).Hosts level t.repeats
  | alternation branches => fun p c c' h => hosts_branches level c'.ip branches p c c' h
  | concatenation items => hosts_all level items
  | group kind body => kind.hosts_fragment (hosts_fragment level body)
  | transformed _ _ body => hosts_fragment level body
  | repetition amount greed body => by
    rw [fragment, repeats]
    split
    · exact hosts_nothing
    · exact hosts_repeated ⟨amount, greed, body⟩ (hosts_fragment level body)
  | quote text => hosts_string text level
  | trivia _ | empty => hosts_nothing
  | atom a => a.hosts_fragment level
  | leveled _ _ => hosts_code _
  | custom _ _ => hosts_never

theorem hosts_all (level : MatchLevel) :
    ∀ ts : List Pattern, (all (fragments level ts)).Hosts level (repeatsAll ts)
  | [] => hosts_nothing
  | t :: ts => hosts_append (hosts_fragment level t) (hosts_all level ts)

theorem hosts_branches (level : MatchLevel) (done : Nat) :
    ∀ ts : List Pattern, (branches done (fragments level ts)).Hosts level (repeatsAll ts)
  | [] => hosts_nothing
  | [t] => by
    rw [repeatsAll, repeatsAll, List.append_nil]
    exact hosts_fragment level t
  | t :: t' :: ts =>
    hosts_branches_cons (hosts_fragment level t) (hosts_branches level done (t' :: ts))

end

/-- Patterns whose loops get as many registers have programs with as many. -/
theorem fewRegisters_of_afterAll {level : MatchLevel} {t t' : Pattern} {p p' : Program}
    (compiled : t.compile level = .ok p) (compiled' : t'.compile level = .ok p')
    (same : afterAll .start t.repeats = afterAll .start t'.repeats) (few : p.FewRegisters) :
    p'.FewRegisters := by
  obtain ⟨stop, whole⟩ := compiled_of_compile compiled
  obtain ⟨stop', whole'⟩ := compiled_of_compile compiled'
  -- both programs end behind the registers of their loops
  have registers : stop.registers = stop'.registers := by
    rw [(hosts_fragment level t p _ _ whole.code).2, (hosts_fragment level t' p' _ _ whole'.code).2]
    exact same
  obtain ⟨_, counters, marks⟩ := Cursor.mk.inj registers
  constructor
  · rw [whole'.counters, ← counters, ← whole.counters]
    exact few.counters
  · rw [whole'.marks, ← marks, ← whole.marks]
    exact few.marks

end Pattern

/-! ## Registers of their own -/

namespace Repeat

variable {p : Program} {level : MatchLevel} {c : Cursor} {r : Repeat} {rs : List Repeat}
  {registers : LoopRegisters}

/-- The registers belong to the loop alone, and a counter begins anew with a bound of the loop. -/
structure Owns (r : Repeat) (registers : LoopRegisters) (p : Program) : Prop where
  apart : ∀ id ∈ registers.required, id ∉ registers.optional
  required : ∀ id ∈ registers.required, ∀ (subject : Text) (acceptAtEnd : Bool) (s : State),
    (⟨p, subject, acceptAtEnd⟩ : Machine).execute s (.reset id) =
      .next { s.next with counters := s.counters.setIfInBounds id.index r.amount.low }
  optional : ∀ id ∈ registers.optional, ∀ (subject : Text) (acceptAtEnd : Bool) (s : State),
    (⟨p, subject, acceptAtEnd⟩ : Machine).execute s (.reset id) =
      .next { s.next with
        counters := s.counters.setIfInBounds id.index
          ((LoopRegisters.optionalPasses? r.amount).getD 0) }

/-- With registers of its own, a loop begins anew with its own bound. -/
theorem owns_of_own (own : registers.Own r.amount r.body.mayBeEmpty p c) :
    r.Owns registers p := by
  constructor
  case apart =>
    intro id mem mem'
    exact own.apart id mem id mem' rfl
  case required =>
    intro id mem subject acceptAtEnd s
    rw [Machine.execute, Machine.resetCounter, (own.required id mem).2.2]
  case optional =>
    intro id mem subject acceptAtEnd s
    rw [Machine.execute, Machine.resetCounter, (own.optional id mem).2.2]

/-- Every loop that a program holds stands in it and owns its registers. -/
theorem owns_of_mem_sites (few : p.FewRegisters) (hosts : p.Hosts level c rs) :
    ∀ x ∈ sites c rs, x.1.StandsIn x.2 level p ∧ x.1.Owns x.2 p := by
  induction rs generalizing c with
  | nil =>
    intro x mem
    cases mem
  | cons r rs ih =>
    rcases hosts with ⟨held, stands, later⟩
    intro x mem
    rcases List.mem_cons.1 mem with rfl | mem
    · exact ⟨stands, owns_of_own (LoopRegisters.numbered_own held few)⟩
    · exact ih later x mem

/-- The registers of loops lie behind the point from which on they are numbered. -/
theorem le_of_mem_sites (few : p.FewRegisters) (hosts : p.Hosts level c rs) :
    ∀ x ∈ sites c rs, (∀ id, x.2.HasCounter id → c.counters ≤ id.index) ∧
      ∀ id ∈ x.2.progress, c.marks ≤ id.index := by
  induction rs generalizing c with
  | nil =>
    intro x mem
    cases mem
  | cons r rs ih =>
    rcases hosts with ⟨held, _, later⟩
    have own := LoopRegisters.numbered_own held few
    intro x mem
    rcases List.mem_cons.1 mem with rfl | mem
    · refine ⟨?_, fun id found => (own.progress id found).1⟩
      rintro id (found | found)
      · exact (own.required id found).1
      · exact (own.optional id found).1
    · -- the loops behind the first one get registers behind its own
      have after := LoopRegisters.le_after r.amount r.body.mayBeEmpty c
      rcases ih later x mem with ⟨counters, marks⟩
      exact ⟨fun id found => Nat.le_trans after.counters (counters id found),
        fun id found => Nat.le_trans after.marks (marks id found)⟩

/-- No two loops that a program holds share a register. -/
theorem pairwise_sites (few : p.FewRegisters) (hosts : p.Hosts level c rs) :
    (sites c rs).Pairwise fun x y => x.2.Apart y.2 := by
  induction rs generalizing c with
  | nil => exact .nil
  | cons r rs ih =>
    rcases hosts with ⟨held, _, later⟩
    have own := LoopRegisters.numbered_own held few
    refine List.pairwise_cons.2 ⟨?_, ih later⟩
    -- the registers of the first loop end where those of the others begin
    intro x mem
    rcases le_of_mem_sites few later x mem with ⟨counters, marks⟩
    constructor
    · rintro id has has'
      have high := counters id has'
      have low : id.index < (r.after c).counters := by
        rcases has with found | found
        · exact (own.required id found).2.1
        · exact (own.optional id found).2.1
      omega
    · intro id found found'
      have high := marks id found'
      have low : id.index < (r.after c).marks := (own.progress id found).2.1
      omega

end Repeat

namespace Builder

/-- The counters that calls make are different, and so are the marks, exactly as long as there are
enough numbers; then each counter leads to the value it was made with. In the program of a pattern
with as few registers, no two loops share a register, and a counter begins anew with the bound of
its own loop. -/
theorem registers_unshared (calls : List Call) (t : Pattern) (level : MatchLevel) :
    (((empty.made Call.counter? calls).map (·.1)).Nodup ↔
      (empty.made Call.counter? calls).length ≤ registerLimit) ∧
    ((empty.made Call.mark? calls).Nodup ↔
      (empty.made Call.mark? calls).length ≤ registerLimit) ∧
    (∀ b, empty.performAll calls = .ok b →
      (empty.made Call.counter? calls).length ≤ registerLimit →
      ∀ x ∈ empty.made Call.counter? calls, b.counters[x.1.index]? = some x.2) ∧
    ∀ p : Program, t.compile level = .ok p → p.FewRegisters →
      (sites .start t.repeats).Pairwise (fun x y => x.2.Apart y.2) ∧
      ∀ x ∈ sites .start t.repeats, x.1.StandsIn x.2 level p ∧ x.1.Owns x.2 p := by
  refine ⟨nodup_counters_iff calls, nodup_marks_iff calls, ?_, ?_⟩
  · intro b performed enough x mem
    exact getElem?_counters_of_mem_made performed enough mem
  · intro p compiled few
    -- loops that stand in the program got their registers one after the other
    obtain ⟨stop, compiled⟩ := Pattern.compiled_of_compile compiled
    have hosts := (t.hosts_fragment level p _ _ compiled.code).1
    exact ⟨pairwise_sites few hosts, owns_of_mem_sites few hosts⟩

/-- Two counters have numbers of their own, and in `a{2}b{2,4}+` the counter of the first loop is
not one of the two of the second. -/
theorem registers_unshared_two :
    (∀ b, empty.performAll [.newCounter 2, .newCounter 3] = .ok b → b.counters[1]? = some 3) ∧
      LoopRegisters.Apart ⟨some ⟨0⟩, none, none⟩ ⟨some ⟨1⟩, some ⟨2⟩, none⟩ := by
  let t : Pattern := .concatenation [.repetition (.exactly 2) .eager (.atom (.char ['a'])),
    .repetition (.between 2 4) .possessive (.atom (.char ['b']))]
  let code : Array (Instruction Nat) := #[.reset ⟨0⟩, .condBranch 4 ⟨0⟩,
    .matchText ['a'] .grapheme, .branch 1, .branch 6, .split 2 6, .reset ⟨1⟩, .reset ⟨2⟩,
    .savePlaceholder, .condBranch 14 ⟨1⟩, .fence, .matchText ['b'] .grapheme, .cut false,
    .branch 9, .clear, .condBranch 17 ⟨2⟩, .split 10 17, .accept]
  have compiled : t.compile .grapheme = .ok ⟨code, .empty, #[2, 2, 2], 0⟩ := by decide +kernel
  obtain ⟨_, _, values, unshared⟩ :=
    registers_unshared [.newCounter 2, .newCounter 3] t .grapheme
  constructor
  · intro b performed
    exact values b performed (by decide) (⟨1⟩, 3) (by decide)
  · have pairwise := (unshared _ compiled ⟨by decide, by decide⟩).1
    exact (List.pairwise_cons.1 pairwise).1 _ (List.mem_singleton.2 rfl)

/-- With one counter more than there are numbers, the last counter gets the number of the first and
leads to the value that the first was made with. -/
theorem registers_collide :
    let calls := ((2 :: List.replicate (registerLimit - 1) 2) ++ [3]).map Call.newCounter
    calls.length < 0x100000000 ∧
    ¬ ((empty.made Call.counter? calls).map (·.1)).Nodup ∧
    (⟨0⟩, 3) ∈ empty.made Call.counter? calls ∧
    ∃ b, empty.performAll calls = .ok b ∧ b.counters[0]? = some 2 := by
  have full : (2 :: List.replicate (registerLimit - 1) 2).length = registerLimit := by
    rw [List.length_cons, List.length_replicate, Nat.sub_add_cancel registerLimit_pos]
  refine ⟨?_, newCounter_behind_last 2 3 full⟩
  rw [List.length_map, List.length_append, full]
  decide

end Builder

end GraphemeRegex
