import GraphemeRegex.Proofs.Lowering.Emission

/-! # Consuming — what the code of a pattern takes from the subject

The code of a pattern consumes at the level for which the pattern was compiled, and it does not
accept: a program accepts behind the code of its pattern only.

* `Instruction.isInner`: whether an instruction may stand in the code of a pattern at a level.
* `Fragment.Inner`: all instructions of a fragment may.
* `Pattern.fragment_inner`: the code of a pattern at a level.
* `Pattern.Compiled.isInner`: the instructions of a program.
-/

namespace GraphemeRegex

/-- Whether an instruction may stand in the code of a pattern at a level: it does not accept, and
what it consumes are units of that level. -/
def Instruction.isInner (level : MatchLevel) : Instruction Nat → Bool
  | accept => false
  | advance _ => level == .grapheme
  | matchText _ own | matchString _ own | consume _ own => own == level
  | _ => true

/-- All instructions of the fragment may stand in the code of a pattern at the level. -/
def Fragment.Inner (level : MatchLevel) (F : Fragment) : Prop :=
  ∀ p c c', F p c c' → ∀ ip, c.ip ≤ ip → ip < c'.ip →
    ∃ i, p.code[ip]? = some i ∧ i.isInner level = true

variable {level : MatchLevel} {p : Program}

/-! ## Lists of instructions -/

namespace Program

/-- An index inside a list of instructions holds one of them. -/
theorem CodeAt.exists_mem {start ip : Nat} {l : List (Instruction Nat)} (h : p.CodeAt start l)
    (low : start ≤ ip) (high : ip < start + l.length) : ∃ i ∈ l, p.code[ip]? = some i := by
  induction l generalizing start with
  | nil =>
    rw [List.length_nil] at high
    omega
  | cons i l ih =>
    obtain ⟨here, later⟩ := h
    -- the index is that of the first instruction, or one of the others
    by_cases first : ip = start
    · subst first
      exact ⟨i, List.mem_cons_self, here⟩
    · rw [List.length_cons] at high
      obtain ⟨j, mem, found⟩ := ih later (by omega) (by omega)
      exact ⟨j, List.mem_cons_of_mem i mem, found⟩

/-- In a segment of instructions that may stand in the code of a pattern, each index holds one. -/
theorem Segment.isInner {start stop : Nat} {l : List (Instruction Nat)}
    (h : p.Segment start l stop) (inner : ∀ i ∈ l, i.isInner level = true) {ip : Nat}
    (low : start ≤ ip) (high : ip < stop) : ∃ i, p.code[ip]? = some i ∧ i.isInner level = true := by
  obtain ⟨code, rfl⟩ := h
  obtain ⟨i, mem, found⟩ := code.exists_mem low high
  exact ⟨i, found, inner i mem⟩

end Program

/-! ## Loops -/

namespace Loop

variable (l : Loop)

theorem isInner_prologue : ∀ i ∈ l.prologue, i.isInner level = true := by
  intro i mem
  simp only [prologue, ifPossessive, List.mem_append, List.mem_map, List.mem_ite_nil_right,
    List.mem_singleton] at mem
  rcases mem with ((⟨_, _, rfl⟩ | ⟨_, _, rfl⟩) | ⟨_, _, rfl⟩) | ⟨_, rfl⟩ <;> rfl

theorem isInner_requirement (optional : Nat) :
    ∀ i ∈ l.requirement optional, i.isInner level = true := by
  intro i mem
  unfold requirement at mem
  split at mem
  · rw [List.mem_singleton.1 mem]
    rfl
  · obtain ⟨_, rfl⟩ : l.amount.low = 0 ∧ i = .branch optional := by simpa using mem
    rfl

theorem isInner_passHead : ∀ i ∈ l.passHead, i.isInner level = true := by
  intro i mem
  simp only [passHead, ifPossessive, List.mem_append, List.mem_map, List.mem_ite_nil_right,
    List.mem_singleton] at mem
  rcases mem with ⟨_, _, rfl⟩ | ⟨_, rfl⟩ <;> rfl

theorem isInner_passTail (required : Nat) : ∀ i ∈ l.passTail required, i.isInner level = true := by
  intro i mem
  simp only [passTail, ifPossessive, List.mem_append, List.mem_ite_nil_right,
    List.mem_singleton] at mem
  rcases mem with ⟨_, rfl⟩ | ⟨_, rfl⟩ <;> rfl

theorem isInner_allowance (exit : Nat) : ∀ i ∈ l.allowance exit, i.isInner level = true := by
  intro i mem
  unfold allowance at mem
  split at mem
  · rw [List.mem_singleton.1 mem]
    rfl
  · obtain ⟨_, rfl⟩ : LoopRegisters.optionalPasses? l.amount = some 0 ∧ i = .branch exit := by
      simpa using mem
    rfl

theorem isInner_policy (pass exit : Nat) : ∀ i ∈ l.policy pass exit, i.isInner level = true := by
  intro i mem
  simp only [policy, ifPossessive, List.mem_append, List.mem_map, List.mem_ite_nil_right,
    List.mem_singleton] at mem
  rcases mem with ((⟨_, rfl⟩ | ⟨_, _, rfl⟩) | allowed) | rfl
  · rfl
  · rfl
  · exact l.isInner_allowance exit i allowed
  · unfold choice
    split <;> rfl

end Loop

/-! ## Combinations -/

namespace Fragment

variable {F G : Fragment} {Fs : List Fragment}

/-- There is no index inside of nothing. -/
theorem inner_nothing : nothing.Inner level := by
  rintro p c _ rfl ip low high
  omega

/-- What does not stand in any program has nothing to show. -/
theorem inner_never : never.Inner level := fun _ _ _ h => absurd h id

/-- Code that is given by its instructions. -/
theorem inner_code {l : List (Instruction Nat)} (h : ∀ i ∈ l, i.isInner level = true) :
    (code l).Inner level := by
  rintro p c _ ⟨stands, rfl⟩ ip low high
  obtain ⟨i, mem, found⟩ := stands.exists_mem low high
  exact ⟨i, found, h i mem⟩

/-- Code of one instruction. -/
theorem inner_unit {i : Instruction Nat} (h : i.isInner level = true) :
    (code [i]).Inner level := by
  apply inner_code
  intro j mem
  rw [List.mem_singleton.1 mem]
  exact h

/-- A string is matched by one instruction, at the level of the code. -/
theorem inner_string (text : Text) : (string text level).Inner level := by
  rintro p c c' ⟨id, _, stands⟩
  have one : (Instruction.matchString id level).isInner level = true := by
    cases level <;> rfl
  exact inner_unit one p c c' stands

/-- An index is in the first part or in the second one. -/
theorem inner_append (hF : F.Inner level) (hG : G.Inner level) : (F.append G).Inner level := by
  rintro p c c' ⟨middle, first, second⟩ ip low high
  -- the parts meet in the middle
  by_cases inside : ip < middle.ip
  · exact hF p c middle first ip low inside
  · exact hG p middle c' second ip (Nat.not_lt.1 inside) high

/-- Parts one after the other. -/
theorem inner_all (h : ∀ F ∈ Fs, F.Inner level) : (all Fs).Inner level := by
  induction Fs with
  | nil => exact inner_nothing
  | cons F Fs ih =>
    apply inner_append (h F List.mem_cons_self)
    apply ih
    intro G mem
    exact h G (List.mem_cons_of_mem F mem)

/-- A fence and a cut around the code consume nothing. -/
theorem inner_fenced (rewind : Bool) (hF : F.Inner level) : (F.fenced rewind).Inner level :=
  inner_append (inner_unit rfl) (inner_append hF (inner_unit rfl))

/-- What a negative lookahead adds to its body consumes nothing. -/
theorem inner_negated (hF : F.Inner level) : F.negated.Inner level := by
  intro p c c' h
  have head : ∀ i ∈ [Instruction.save c'.ip, .fence], i.isInner level = true := by
    simp [Instruction.isInner]
  have tail : ∀ i ∈ [Instruction.cut false, .clear, .fail], i.isInner level = true := by
    simp [Instruction.isInner]
  exact inner_append (inner_code head) (inner_append hF (inner_code tail)) p c c' h

/-- The branches have saves and jumps between them. -/
theorem inner_branches (done : Nat) (h : ∀ F ∈ Fs, F.Inner level) :
    (branches done Fs).Inner level := by
  induction Fs with
  | nil => exact inner_nothing
  | cons F Fs ih =>
    cases Fs with
    | nil => exact h F List.mem_cons_self
    | cons G Fs =>
      rintro p c c' ⟨last, save, body, branch, later⟩ ip low high
      have others : (branches done (G :: Fs)).Inner level := by
        apply ih
        intro H mem
        exact h H (List.mem_cons_of_mem F mem)
      -- the branch stands between its checkpoint and its jump
      by_cases first : ip = c.ip
      · exact ⟨_, first ▸ save, rfl⟩
      by_cases inside : ip < last.ip
      · have entry : (c.advance 1).ip ≤ ip := by
          show c.ip + 1 ≤ ip
          omega
        exact h F List.mem_cons_self p _ last body ip entry inside
      by_cases jump : ip = last.ip
      · exact ⟨_, jump ▸ branch, rfl⟩
      · have beyond : (last.advance 1).ip ≤ ip := by
          show last.ip + 1 ≤ ip
          omega
        exact others p _ c' later ip beyond high

theorem inner_alternation (h : ∀ F ∈ Fs, F.Inner level) : (alternation Fs).Inner level :=
  fun p c c' stands => inner_branches c'.ip h p c c' stands

/-- None of the instructions around the body of a loop consumes or accepts. -/
theorem inner_repeated (amount : Amount) (greed : Greed) (mayBeEmpty : Bool)
    (hF : F.Inner level) : (repeated amount greed mayBeEmpty F).Inner level := by
  rintro p c c' ⟨_, required, pass, optional, first, last, stands⟩ ip low high
  by_cases prologue : ip < required
  · exact stands.prologue.isInner (Loop.isInner_prologue _) low prologue
  by_cases requirement : ip < pass
  · exact stands.requirement.isInner (Loop.isInner_requirement _ _) (by omega) requirement
  by_cases head : ip < first.ip
  · exact stands.passHead.isInner (Loop.isInner_passHead _) (by omega) head
  by_cases body : ip < last.ip
  · exact hF p first last stands.body ip (by omega) body
  by_cases tail : ip < optional
  · exact stands.passTail.isInner (Loop.isInner_passTail _ _) (by omega) tail
  · exact stands.policy.isInner (Loop.isInner_policy _ _ _) (by omega) high

end Fragment

open Fragment

/-! ## Patterns -/

/-- An atom is consumed at the level of the code, if it has any. -/
theorem Atom.fragment_inner (level : MatchLevel) (a : Atom) : (a.fragment level).Inner level := by
  cases a with
  | any => cases level <;> exact inner_unit rfl
  | char _ | scalar _ | cls _ => cases level <;> exact inner_unit rfl
  | property _ _ | anchor _ | backreference _ => exact inner_never

/-- What a group adds to its body consumes nothing. -/
theorem GroupKind.fragment_inner {F : Fragment} (kind : GroupKind) (hF : F.Inner level) :
    (kind.fragment F).Inner level := by
  cases kind with
  | capture | named _ | nonCapture | branchReset | options _ _ => exact hF
  | atomic | lookahead => exact inner_fenced _ hF
  | negativeLookahead => exact inner_negated hF
  | nonAtomicLookahead | lookbehind | negativeLookbehind | nonAtomicLookbehind | scriptRun
  | atomicScriptRun => exact inner_never

namespace Pattern

mutual

/-- The code of a pattern at a level consumes at that level, and it does not accept. -/
theorem fragment_inner (level : MatchLevel) : ∀ t : Pattern, (t.fragment level).Inner level
  | alternation branches => inner_alternation (fragments_inner level branches)
  | concatenation items => inner_all (fragments_inner level items)
  | group kind body => kind.fragment_inner (fragment_inner level body)
  | transformed _ _ body => fragment_inner level body
  | repetition amount greed body => by
    rw [fragment]
    split
    · exact inner_nothing
    · exact inner_repeated _ _ _ (fragment_inner level body)
  | quote text => inner_string text
  | trivia _ | empty => inner_nothing
  | atom a => a.fragment_inner level
  | leveled cls _ => by
    rw [fragment]
    cases level <;> exact inner_unit rfl
  | custom _ _ => inner_never

theorem fragments_inner (level : MatchLevel) :
    ∀ ts : List Pattern, ∀ F ∈ fragments level ts, F.Inner level
  | [] => fun _ mem => absurd mem List.not_mem_nil
  | t :: ts => fun F mem => by
    rcases List.mem_cons.1 mem with rfl | mem
    · exact fragment_inner level t
    · exact fragments_inner level ts F mem

end

/-- Every instruction of a compiled program consumes at the level of the program, but for the last
one, which accepts. -/
theorem Compiled.isInner {t : Pattern} {stop : Cursor} {ip : Nat} {i : Instruction Nat}
    (h : t.Compiled level p stop) (code : p.code[ip]? = some i) :
    i.isInner level = true ∨ i = .accept := by
  obtain ⟨inside, _⟩ := Array.getElem?_eq_some_iff.1 code
  have size := h.size
  by_cases last : ip = stop.ip
  · subst last
    rw [h.accept, Option.some.injEq] at code
    exact .inr code.symm
  · obtain ⟨j, found, inner⟩ := fragment_inner level t p .start stop h.code ip (Nat.zero_le ip)
      (by omega)
    rw [found, Option.some.injEq] at code
    exact .inl (code ▸ inner)

end Pattern

end GraphemeRegex
