import GraphemeRegex.Proofs.Lowering.Fragment
import GraphemeRegex.Proofs.Machine.Discipline

/-! # Keeping — the code of patterns keeps its discipline

Code leaves the shape of the stack as it found it. This holds for all code, also where register
numbers start again from zero.

* `Fragment.Keeps`: code that leaves a shape as it found it.
* `Fragment.keeps_fenced`, `Fragment.keeps_negated`, `Fragment.keeps_alternation`: groups and
  branches.
* `Fragment.keeps_repeated`: loops.
* `Pattern.fragment_keeps`: patterns.
-/

namespace GraphemeRegex

/-- The code keeps to the shapes at its own indexes, and it leaves with the shape with which it is
entered. -/
def Fragment.Keeps (F : Fragment) (σ : Shape) : Prop :=
  ∀ (p : Program) (c c' : Cursor), F p c c' →
    ∀ R : Nat → Prop, (∀ a, c.ip ≤ a → a < c'.ip → R a) →
      ∀ E : Shaping, p.Keeps R E c'.ip σ → p.Keeps R E c.ip σ

variable {p : Program} {R : Nat → Prop} {E : Shaping} {σ : Shape}

/-! ## Loops -/

namespace Loop

variable {l : Loop} {F : Fragment} {c c' : Cursor} {required pass optional : Nat}
  {first last : Cursor}

/-- The shape between two passes: a possessive loop has a checkpoint of its own on the stack. -/
def shape (l : Loop) (σ : Shape) : Shape :=
  match l.greed with
  | .possessive => .slot :: σ
  | .eager | .reluctant => σ

/-- The shape in the body: a possessive loop fences it. -/
def bodyShape (l : Loop) (σ : Shape) : Shape :=
  match l.greed with
  | .possessive => .fence :: .slot :: σ
  | .eager | .reluctant => σ

/-- Instructions that use what a loop has know their registers. -/
theorem knows_of_uses {targets : List Nat} {i : Instruction Nat} (uses : l.Uses targets i)
    (within : l.registers.Within p.counters.size p.marks) : p.Knows i where
  counters r mem := (uses.counters r mem).elim (within.required r) (within.optional r)
  marks r mem := within.progress r (uses.marks r mem)
  strings := by simp [uses.strings]

variable (within : l.registers.Within p.counters.size p.marks)

include within

/-- Plain instructions of a loop keep to the shape with which they are entered. -/
theorem keeps_of_uses {targets : List Nat} {code : List (Instruction Nat)} {ip stop : Nat}
    (stands : p.Segment ip code stop) (inside : ∀ a, ip ≤ a → a < stop → R a)
    (uses : ∀ i ∈ code, l.Uses targets i)
    (plain : ∀ i ∈ code, i.isPlain = true) (jumps : ∀ target ∈ targets, p.Keeps R E target σ)
    (h : p.Keeps R E stop σ) : p.Keeps R E ip σ := by
  refine .of_plain stands inside plain ?_ ?_ h
  · intro i mem
    exact knows_of_uses (uses i mem) within
  · intro i mem target found
    exact jumps target ((uses i mem).targets target found)

/-- In front of the first pass, registers are reset, and a possessive loop pushes its
placeholder. -/
theorem keeps_prologue {ip : Nat} (stands : p.Segment ip l.prologue required)
    (inside : ∀ a, ip ≤ a → a < required → R a)
    (h : p.Keeps R E required (l.shape σ)) : p.Keeps R E ip σ := by
  have uses := l.uses_prologue (α := Nat)
  unfold prologue at stands uses
  rcases Program.segment_append.1 stands with ⟨last, resets, placeholder⟩
  have before : last ≤ required := placeholder.le
  have behind : ip ≤ last := resets.le
  -- the instructions that reset leave the shape as it is
  refine keeps_of_uses within resets (fun a low high => inside a low (by omega))
    (fun i mem => uses i (List.mem_append_left _ mem)) ?_
    (fun target mem => absurd mem List.not_mem_nil) ?_
  · intro i mem
    simp only [List.mem_append, List.mem_map] at mem
    rcases mem with (⟨_, _, rfl⟩ | ⟨_, _, rfl⟩) | ⟨_, _, rfl⟩ <;> rfl
  · unfold ifPossessive at placeholder
    unfold shape at h
    cases greedy : l.greed with
    | possessive =>
      rw [greedy] at placeholder h
      have next : required = last + 1 := placeholder.2
      have here : R last := inside last behind (by omega)
      -- the placeholder is the checkpoint between the passes
      exact .of_code here placeholder.1.1 (.placeholder (next ▸ h))
    | eager | reluctant =>
      rw [greedy] at placeholder h
      exact placeholder.eq_of_nil ▸ h

/-- In front of a pass, a loop may leave for its optional passes. -/
theorem keeps_requirement {ip : Nat} (stands : p.Segment ip (l.requirement optional) pass)
    (inside : ∀ a, ip ≤ a → a < pass → R a) (done : p.Keeps R E optional σ)
    (more : p.Keeps R E pass σ) : p.Keeps R E ip σ := by
  have uses := l.uses_requirement optional
  unfold requirement at stands uses
  -- more passes than one are counted
  cases counter : l.registers.required with
  | some id =>
    rw [counter] at stands uses
    refine keeps_of_uses within stands inside uses ?_ ?_ more
    · intro i mem
      rw [List.mem_singleton.1 mem]
      rfl
    · intro target mem
      rw [List.mem_singleton.1 mem]
      exact done
  | none =>
    rw [counter] at stands
    -- without a counter there is one pass or none
    by_cases skipped : l.amount.low = 0
    · rw [skipped] at stands
      have next : pass = ip + 1 := stands.2
      have here : R ip := inside ip (Nat.le_refl ip) (by omega)
      exact .of_code here stands.1.1 (.branch done)
    · have entered : (l.amount.low == 0) = false := beq_eq_false_iff_ne.2 skipped
      rw [entered] at stands
      exact stands.eq_of_nil ▸ more

/-- A pass leads back to the requirement or on to the optional passes. -/
theorem keeps_pass (stands : l.Stands F p c c' required pass optional first last)
    (forward : F.Forward) (inside : ∀ a, pass ≤ a → a < optional → R a)
    (body : F.Keeps (l.bodyShape σ)) (again : 1 < l.amount.low → p.Keeps R E required (l.shape σ))
    (on : p.Keeps R E optional (l.shape σ)) : p.Keeps R E pass (l.shape σ) := by
  rcases Program.segment_append.1 stands.passHead with ⟨behind, marks, head⟩
  rcases Program.segment_append.1 stands.passTail with ⟨closed, tail, jump⟩
  have marked : pass ≤ behind := marks.le
  have entered : behind ≤ first.ip := head.le
  have between : first.ip ≤ last.ip := (forward p first last stands.body).ip
  have passed : last.ip ≤ closed := tail.le
  have jumped : closed ≤ optional := jump.le
  -- behind the body, and behind the cut of a possessive loop
  have back : ∀ ip, pass ≤ ip →
      p.Segment ip (if 1 < l.amount.low then [.branch required] else []) optional →
        p.Keeps R E ip (l.shape σ) := by
    intro ip low code
    by_cases many : 1 < l.amount.low
    · rw [if_pos many] at code
      have next : optional = ip + 1 := code.2
      exact .of_code (inside ip low (by omega)) code.1.1 (.branch (again many))
    · rw [if_neg many] at code
      exact code.eq_of_nil ▸ on
  refine keeps_of_uses within marks (fun a low high => inside a low (by omega))
    (fun i mem => l.uses_passHead i (List.mem_append_left _ mem)) ?_
    (fun target mem => absurd mem List.not_mem_nil) ?_
  · intro i mem
    rcases List.mem_map.1 mem with ⟨_, _, rfl⟩
    rfl
  · have own := body p first last stands.body R (fun a low high => inside a (by omega) (by omega)) E
    unfold ifPossessive at head tail
    unfold bodyShape at own
    unfold shape at back ⊢
    cases greedy : l.greed with
    | possessive =>
      rw [greedy] at head tail back own
      have entry : first.ip = behind + 1 := head.2
      have next : closed = last.ip + 1 := tail.2
      refine .of_code (inside behind marked (by omega)) head.1.1 (.fence ?_)
      rw [← entry]
      have cut : R last.ip := inside last.ip (by omega) (by omega)
      exact own (.of_code cut tail.1.1 (.cut rfl (back _ (by omega) (next ▸ jump))))
    | eager | reluctant =>
      rw [greedy] at head tail back own
      have entry : first.ip = behind := head.2
      rw [← entry]
      exact own (back _ (by omega) (tail.eq_of_nil ▸ jump))

/-- In front of the choice, a loop may only leave. -/
theorem keeps_policy {ip stop exit : Nat}
    (stands : p.Segment ip (l.ifPossessive .clear ++
      l.registers.progress.toList.map (.checkProgress exit) ++ l.allowance exit) stop)
    (inside : ∀ a, ip ≤ a → a < stop → R a) (leaves : p.Keeps R E exit σ)
    (h : p.Keeps R E stop σ) : p.Keeps R E ip (l.shape σ) := by
  rcases Program.segment_append.1 stands with ⟨allow, code, allowance⟩
  rcases Program.segment_append.1 code with ⟨check, clear, checks⟩
  have cleared : ip ≤ check := clear.le
  have checking : check ≤ allow := checks.le
  have allowing : allow ≤ stop := allowance.le
  have allowed : p.Keeps R E allow σ := by
    have uses := l.uses_allowance exit
    unfold Loop.allowance at allowance uses
    cases counter : l.registers.optional with
    | some id =>
      rw [counter] at allowance uses
      refine keeps_of_uses within allowance (fun a low high => inside a (by omega) high) uses ?_ ?_
        h
      · intro i mem
        rw [List.mem_singleton.1 mem]
        rfl
      · intro target mem
        rw [List.mem_singleton.1 mem]
        exact leaves
    | none =>
      rw [counter] at allowance
      by_cases never : LoopRegisters.optionalPasses? l.amount = some 0
      · rw [never] at allowance
        have next : stop = allow + 1 := allowance.2
        have here : R allow := inside allow (by omega) (by omega)
        exact .of_code here allowance.1.1 (.branch leaves)
      · have possible : (LoopRegisters.optionalPasses? l.amount == some 0) = false :=
          beq_eq_false_iff_ne.2 never
        rw [possible] at allowance
        exact allowance.eq_of_nil ▸ h
  -- checking the progress is plain, too, and it may only leave the loop
  have checked : p.Keeps R E check σ := by
    refine .of_plain checks (fun a low high => inside a (by omega) (by omega)) ?_ ?_ ?_ allowed <;>
      intro i mem <;>
      rcases List.mem_map.1 mem with ⟨id, known, rfl⟩
    · rfl
    · have mark := within.progress id (Option.mem_toList.1 known)
      constructor <;> simp [Instruction.counters, Instruction.marks, Instruction.strings, mark]
    · simpa [Instruction.targets] using leaves
  unfold ifPossessive at clear
  unfold shape
  cases greedy : l.greed with
  | possessive =>
    rw [greedy] at clear
    have next : check = ip + 1 := clear.2
    have here : R ip := inside ip (Nat.le_refl ip) (by omega)
    exact .of_code here clear.1.1 (.clear rfl (next ▸ checked))
  | eager | reluctant =>
    rw [greedy] at clear
    exact clear.eq_of_nil ▸ checked

omit within in
/-- The choice enters a pass or leaves the loop, and a saved choice may be resumed later on, which
no fence below may hide. -/
theorem follows_choice {K : Shaping} {ip exit : Nat}
    (free : l.greed ≠ .possessive → σ.isOpen = true) (behind : exit = ip + 1)
    (more : K pass (l.shape σ)) (leaves : K exit σ) :
    p.Follows K ip σ (l.choice pass exit) := by
  unfold choice
  unfold shape at more
  cases greedy : l.greed with
  | eager =>
    rw [greedy] at free more
    exact .split (free (by decide)) leaves more
  | possessive =>
    rw [greedy] at more
    exact .splitSlot leaves more
  | reluctant =>
    rw [greedy] at free more
    exact .save (free (by decide)) more (behind ▸ leaves)

/-- A loop leaves the shape as it found it. Its code comes back to two places only. -/
theorem Stands.keeps (stands : l.Stands F p c c' required pass optional first last)
    (forward : F.Forward) (inside : ∀ a, c.ip ≤ a → a < c'.ip → R a)
    (counted : 1 < l.amount.low → l.registers.required.isSome) (body : F.Keeps (l.bodyShape σ))
    (free : l.greed ≠ .possessive → σ.isOpen = true) (h : p.Keeps R E c'.ip σ) :
    p.Keeps R E c.ip σ := by
  -- a pass ends in front of the choice, or at the requirement if it is counted
  rcases Program.segment_append.1 stands.policy with ⟨choose, code, choice⟩
  have begun : c.ip ≤ required := stands.prologue.le
  have asked : required ≤ pass := stands.requirement.le
  have entered : pass ≤ first.ip := stands.passHead.le
  have between : first.ip ≤ last.ip := (forward p first last stands.body).ip
  have passed : last.ip ≤ optional := stands.passTail.le
  have decided : optional ≤ choose := code.le
  have chosen : c'.ip = choose + 1 := choice.2
  let again : Shaping := fun a τ =>
    a = choose ∧ τ = σ ∨ 1 < l.amount.low ∧ a = required ∧ τ = l.shape σ
  have leaves : p.Keeps R (fun a τ => E a τ ∨ again a τ) c'.ip σ := by
    refine h.mono ?_
    intro a τ exit
    exact .inl exit
  have atOptional : p.Keeps R (fun a τ => E a τ ∨ again a τ) optional (l.shape σ) :=
    keeps_policy within code (fun a low high => inside a (by omega) (by omega)) leaves
      (.of_exit (.inr (.inl ⟨rfl, rfl⟩)))
  have atPass : p.Keeps R (fun a τ => E a τ ∨ again a τ) pass (l.shape σ) := by
    refine keeps_pass within stands forward (fun a low high => inside a (by omega) (by omega)) body
      ?_ atOptional
    intro many
    exact .of_exit (.inr (.inr ⟨many, rfl, rfl⟩))
  have atRequired : p.Keeps R (fun a τ => E a τ ∨ again a τ) required (l.shape σ) :=
    keeps_requirement within stands.requirement
      (fun a low high => inside a (by omega) (by omega)) atOptional atPass
  refine .of_loop (L := again) ?_ (keeps_prologue within stands.prologue
    (fun a low high => inside a low (by omega)) atRequired)
  rintro a τ (⟨atChoice, rfl⟩ | ⟨many, atRequirement, rfl⟩)
  · subst atChoice
    have here : R a := inside a (by omega) (by omega)
    exact ⟨here, _, choice.1.1, follows_choice free choice.2 atPass leaves⟩
  · subst atRequirement
    rcases Option.isSome_iff_exists.1 (counted many) with ⟨id, counter⟩
    have requirement := stands.requirement
    have uses := l.uses_requirement optional
    rw [Loop.requirement, counter] at requirement uses
    have next : pass = a + 1 := requirement.2
    have here : R a := inside a begun (by omega)
    refine ⟨here, _, requirement.1.1, .plain rfl (knows_of_uses (uses _ (by simp)) within) ?_ ?_⟩
    · simpa [Instruction.targets] using atOptional
    · exact next ▸ atPass

end Loop

/-! ## Combinations -/

namespace Fragment

variable {F G : Fragment} {Fs : List Fragment}

theorem keeps_nothing : nothing.Keeps σ := by
  rintro p c _ rfl R _ E h
  exact h

theorem keeps_never : never.Keeps σ := fun _ _ _ code => absurd code id

/-- An instruction that only takes something from the subject. -/
theorem keeps_unit {i : Instruction Nat} (plain : i.isPlain = true) (targets : i.targets = [])
    (knows : ∀ p : Program, p.Knows i) : (code [i]).Keeps σ := by
  rintro p c _ ⟨stands, rfl⟩ R inside E h
  have here : R c.ip := inside c.ip (Nat.le_refl _) (Nat.lt_succ_self _)
  exact .of_code here stands.1 (.plain plain (knows p) (by simp [targets]) h)

/-- A string is taken by one instruction. -/
theorem keeps_string (text : Text) (level : MatchLevel) : (string text level).Keeps σ := by
  rintro p c _ ⟨id, found, stands, rfl⟩ R inside E h
  rcases Array.getElem?_eq_some_iff.1 found with ⟨known, _⟩
  have knows : p.Knows (.matchString id level) := by
    constructor <;> simp [Instruction.counters, Instruction.marks, Instruction.strings]
    exact known
  have here : R c.ip := inside c.ip (Nat.le_refl _) (Nat.lt_succ_self _)
  exact .of_code here stands.1 (.plain rfl knows (by simp [Instruction.targets]) h)

/-- Parts one after the other, from the last one on. -/
theorem keeps_append (hF : F.Keeps σ) (hG : G.Keeps σ) (forward : F.Forward)
    (forward' : G.Forward) : (F.append G).Keeps σ := by
  rintro p c c' ⟨middle, first, second⟩ R inside E h
  have before : c.ip ≤ middle.ip := (forward p c middle first).ip
  have behind : middle.ip ≤ c'.ip := (forward' p middle c' second).ip
  have rest : p.Keeps R E middle.ip σ :=
    hG p middle c' second R (fun a low high => inside a (by omega) high) E h
  exact hF p c middle first R (fun a low high => inside a low (by omega)) E rest

theorem keeps_all (h : ∀ F ∈ Fs, F.Keeps σ) (forward : ∀ F ∈ Fs, F.Forward) :
    (all Fs).Keeps σ := by
  induction Fs with
  | nil => exact keeps_nothing
  | cons F Fs ih =>
    have later : ∀ G ∈ Fs, G.Forward := fun G mem => forward G (by simp [mem])
    refine keeps_append (h F (by simp)) (ih ?_ later) (forward F (by simp)) (forward_all later)
    intro G mem
    exact h G (by simp [mem])

/-- What is fenced runs above a fence, which the cut takes away. -/
theorem keeps_fenced (rewind : Bool) (hF : F.Keeps (.fence :: σ)) (forward : F.Forward) :
    (F.fenced rewind).Keeps σ := by
  rintro p c _ ⟨_, ⟨fence, rfl⟩, last, body, cut, rfl⟩ R inside E h
  have between : c.ip + 1 ≤ last.ip := (forward p _ last body).ip
  have own (a : Nat) (low : c.ip ≤ a) (high : a < last.ip + 1) : R a := inside a low high
  have matched : p.Keeps R E last.ip (.fence :: σ) :=
    .of_code (own _ (by omega) (by omega)) cut.1 (.cut rfl h)
  refine .of_code (own _ (Nat.le_refl _) (by omega)) fence.1 (.fence ?_)
  refine hF p _ last body R ?_ E matched
  intro a low high
  exact own a (Nat.le_of_succ_le low) (by omega)

/-- The checkpoint in front of the fence is cleared if the body succeeds, and resumed otherwise. -/
theorem keeps_negated (hF : F.Keeps (.fence :: .slot :: σ)) (forward : F.Forward) :
    F.negated.Keeps σ := by
  rintro p c c' ⟨_, ⟨head, rfl⟩, last, body, tail, rfl⟩ R inside E h
  rcases head with ⟨save, fence, -⟩
  rcases tail with ⟨cut, clear, fail, -⟩
  have between : c.ip + 2 ≤ last.ip := (forward p _ last body).ip
  have own (a : Nat) (low : c.ip ≤ a) (high : a < last.ip + 3) : R a := inside a low high
  -- from the last instruction back to the first one
  have failed : p.Keeps R E (last.ip + 2) σ :=
    .of_code (own _ (by omega) (by omega)) fail .fail
  have cleared : p.Keeps R E (last.ip + 1) (.slot :: σ) :=
    .of_code (own _ (by omega) (by omega)) clear (.clear rfl failed)
  have matched : p.Keeps R E last.ip (.fence :: .slot :: σ) :=
    .of_code (own _ (by omega) (by omega)) cut (.cut rfl cleared)
  have entered : p.Keeps R E (c.ip + 2) (.fence :: .slot :: σ) := by
    refine hF p _ last body R ?_ E matched
    intro a low high
    have low' : c.ip + 2 ≤ a := low
    exact own a (by omega) (by omega)
  have fenced : p.Keeps R E (c.ip + 1) (.slot :: σ) :=
    .of_code (own _ (by omega) (by omega)) fence (.fence entered)
  exact .of_code (own _ (Nat.le_refl _) (by omega)) save (.saveSlot h fenced)

/-- A branch that is left over may be resumed from any branch before it, so the shape has to be
open. -/
theorem keeps_branches (free : σ.isOpen = true) (h : ∀ F ∈ Fs, F.Keeps σ)
    (forward : ∀ F ∈ Fs, F.Forward) {done : Nat} {p : Program} {c c' : Cursor}
    (stands : branches done Fs p c c') (inside : ∀ a, c.ip ≤ a → a < c'.ip → R a)
    (atDone : p.Keeps R E done σ) (behind : p.Keeps R E c'.ip σ) : p.Keeps R E c.ip σ := by
  induction Fs generalizing c with
  | nil =>
    obtain rfl : c' = c := stands
    exact behind
  | cons F Fs ih =>
    cases Fs with
    | nil => exact h F (by simp) p c c' stands R inside E behind
    | cons G Fs =>
      rcases stands with ⟨last, save, body, branch, others⟩
      have rest : ∀ H ∈ G :: Fs, H.Forward := fun H mem => forward H (by simp [mem])
      have between : c.ip + 1 ≤ last.ip := (forward F (by simp) p _ last body).ip
      have onward : last.ip + 1 ≤ c'.ip := (forward_branches done rest p _ c' others).ip
      -- the other branches, then the jump behind this one
      have later : p.Keeps R E (last.ip + 1) σ := by
        refine ih (fun H mem => h H (by simp [mem])) rest others ?_
        intro a low high
        have low' : last.ip + 1 ≤ a := low
        exact inside a (by omega) high
      have jump : p.Keeps R E last.ip σ :=
        .of_code (inside _ (by omega) (by omega)) branch (.branch atDone)
      refine .of_code (inside _ (Nat.le_refl _) (by omega)) save (.save free later ?_)
      exact h F (by simp) p _ last body R
        (fun a low high => inside a (Nat.le_of_succ_le low) (by omega)) E jump

/-- The branches of an alternation all leave behind it. -/
theorem keeps_alternation (free : σ.isOpen = true) (h : ∀ F ∈ Fs, F.Keeps σ)
    (forward : ∀ F ∈ Fs, F.Forward) : (alternation Fs).Keeps σ :=
  fun _ _ _ stands _ inside _ behind => keeps_branches free h forward stands inside behind behind

/-- The body of a loop runs above what the loop has on the stack. -/
theorem keeps_repeated (amount : Amount) (greed : Greed) (mayBeEmpty : Bool)
    (hF : ∀ τ : Shape, τ.isOpen = true → F.Keeps τ) (forward : F.Forward)
    (free : greed ≠ .possessive → σ.isOpen = true) :
    (repeated amount greed mayBeEmpty F).Keeps σ := by
  rintro p c c' ⟨held, required, pass, optional, first, last, stands⟩ R inside E h
  have body : Shape.isOpen (Loop.bodyShape ⟨amount, greed, .numbered amount mayBeEmpty c⟩ σ) := by
    cases greed with
    | possessive => rfl
    | eager | reluctant => exact free (by decide)
  show p.Keeps R E (LoopRegisters.after amount mayBeEmpty c).ip σ
  refine stands.keeps held.within forward inside ?_ (hF _ body) free h
  intro many
  simp [LoopRegisters.numbered, show 1 < amount.low from many]

end Fragment

open Fragment

/-! ## Patterns -/

/-- An atom touches no checkpoint but to fall back to one. -/
theorem Atom.fragment_keeps (level : MatchLevel) (a : Atom) : (a.fragment level).Keeps σ := by
  cases a <;> cases level <;>
    first
    | exact keeps_never
    | exact keeps_unit rfl rfl fun _ => by
        constructor <;> simp [Instruction.counters, Instruction.marks, Instruction.strings]

/-- Groups keep the shape for each kind of body they have. -/
theorem GroupKind.fragment_keeps {F : Fragment} (kind : GroupKind) (free : σ.isOpen = true)
    (hF : ∀ τ : Shape, τ.isOpen = true → F.Keeps τ) (forward : F.Forward) :
    (kind.fragment F).Keeps σ := by
  cases kind with
  | capture | named _ | nonCapture | branchReset | options _ _ => exact hF σ free
  | atomic | lookahead => exact keeps_fenced _ (hF _ rfl) forward
  | negativeLookahead => exact keeps_negated (hF _ rfl) forward
  | nonAtomicLookahead | lookbehind | negativeLookbehind | nonAtomicLookbehind | scriptRun
  | atomicScriptRun => exact keeps_never

namespace Pattern

mutual

/-- The code of a pattern leaves the shape as it found it. -/
theorem fragment_keeps (level : MatchLevel) : ∀ (t : Pattern) (σ : Shape), σ.isOpen = true →
    (t.fragment level).Keeps σ
  | alternation branches, σ, free =>
    keeps_alternation free (fun F mem => fragments_keep level branches F mem σ free)
      (fragments_forward level branches)
  | concatenation items, σ, free =>
    keeps_all (fun F mem => fragments_keep level items F mem σ free)
      (fragments_forward level items)
  | group kind body, σ, free =>
    kind.fragment_keeps free (fragment_keeps level body) (fragment_forward level body)
  | transformed _ _ body, σ, free => fragment_keeps level body σ free
  | repetition amount greed body, σ, free => by
    rw [fragment]
    split
    · exact keeps_nothing
    · exact keeps_repeated amount greed _ (fragment_keeps level body) (fragment_forward level body)
        fun _ => free
  | quote text, _, _ => keeps_string text level
  | trivia _, _, _ | empty, _, _ => keeps_nothing
  | atom a, _, _ => a.fragment_keeps level
  | leveled cls _, _, _ => keeps_unit rfl rfl fun _ => by
    constructor <;> simp [Instruction.counters, Instruction.marks, Instruction.strings]
  | custom _ _, _, _ => keeps_never

theorem fragments_keep (level : MatchLevel) : ∀ (ts : List Pattern), ∀ F ∈ fragments level ts,
    ∀ σ : Shape, σ.isOpen = true → F.Keeps σ
  | [] => fun _ mem => absurd mem List.not_mem_nil
  | t :: ts => fun F mem => by
    rcases List.mem_cons.1 mem with rfl | mem
    · exact fragment_keeps level t
    · exact fragments_keep level ts F mem

end

end Pattern

end GraphemeRegex
