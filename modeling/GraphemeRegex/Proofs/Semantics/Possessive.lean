import GraphemeRegex.Proofs.Lowering.Ownership
import GraphemeRegex.Proofs.Lowering.Supported
import GraphemeRegex.Proofs.Semantics.Answers

/-! # Possessive loops — loops that give nothing back

A possessive loop gives no pass back: it goes on from the first end of each, and if a required pass
fails behind such an end, the loop fails. An atomic group around an eager loop gives nothing back
once the loop has ended, but in front of that a required pass may still try its other ends.

* `Matcher.repeatedWithin_possessive`: a possessive loop is an atomic group around an eager loop
  whose passes are atomic groups.
* `Matcher.repeatedWithin_possessive_or`: with passes that are not, the possessive loop may fail
  earlier, if it requires two passes or more.
* `Pattern.runAt_possessive`: the same of the answers of programs.
-/

namespace GraphemeRegex

/-! ## Loops -/

namespace Matcher

variable {after : Option Position → Matcher} {steps? : Option Nat} {watched : Bool}
  {amount : Amount} {p : Position}

/-- If every match goes on to an end, then the first end is behind the first match. -/
theorem atomic_append {N : Matcher} (filled : ∀ q, N q ≠ []) (M : Matcher) :
    (M.append N).atomic = M.atomic.append N.atomic := by
  funext p
  simp only [append, atomic]
  cases M p with
  | nil => rfl
  | cons q ends =>
    obtain ⟨r, rest, first⟩ := List.exists_cons_of_ne_nil (filled q)
    simp [atomic, first]

/-- An eager loop that can go on for one more pass or stop has an end. -/
theorem prefer_eager_ne_nil (more : List Position) : Greed.eager.prefer more [p] ≠ [] := by
  simp [Greed.prefer]

/-- One more pass or none: a possessive loop keeps the first end of an eager one. -/
theorem prefer_atomic_append {N : Matcher} (filled : ∀ q, N q ≠ []) (M : Matcher) (p : Position) :
    Greed.possessive.prefer (M.atomic.append N.atomic p) [p] =
      (Greed.eager.prefer (M.append N p) [p]).take 1 := by
  rw [← atomic_append filled, atomic]
  cases M.append N p <;> rfl

/-- A loop with a limit can stop, so it has an end. -/
theorem upTo_eager_ne_nil (M : Matcher) (count : Nat) (p : Position) :
    upTo .eager M count p ≠ [] := by
  cases count with
  | zero => exact List.cons_ne_nil _ _
  | succ count => exact prefer_eager_ne_nil _

/-- With a limit, a possessive loop keeps the first end of an eager one. -/
theorem upTo_possessive (M : Matcher) (count : Nat) :
    upTo .possessive M.atomic count = (upTo .eager M count).atomic := by
  induction count with
  | zero => rfl
  | succ count ih =>
    funext p
    calc upTo .possessive M.atomic (count + 1) p
      _ = Greed.possessive.prefer (M.atomic.append (upTo .eager M count).atomic p) [p] := by
        rw [← ih]
        rfl
      _ = (upTo .eager M (count + 1)).atomic p :=
        prefer_atomic_append (upTo_eager_ne_nil M count) M p

/-- A loop without a limit has an end, too. -/
theorem unlimited_eager_ne_nil (M : Matcher) (last? : Option Position) (p : Position) :
    unlimited .eager M last? p ≠ [] := by
  rw [unlimited]
  split
  · exact List.cons_ne_nil _ _
  · exact prefer_eager_ne_nil _

/-- Without a limit, a possessive loop keeps the first end of an eager one. -/
theorem unlimited_possessive (M : Matcher) (last? : Option Position) (p : Position) :
    unlimited .possessive M.atomic last? p = (unlimited .eager M last?).atomic p := by
  -- along the recursion of the loop, in which each pass leaves less of the text
  induction last?, p using unlimited.induct with
  | case1 last? p stuck =>
    rw [atomic, unlimited, unlimited, if_pos stuck, if_pos stuck]
    rfl
  | case2 last? p moved ih =>
    calc unlimited .possessive M.atomic last? p
      _ = Greed.possessive.prefer (M.atomic.append (unlimited .eager M (some p)).atomic p) [p] := by
        rw [unlimited, if_neg moved]
        simp only [ih]
        rfl
      _ = (Greed.eager.prefer (M.append (unlimited .eager M (some p)) p) [p]).take 1 :=
        prefer_atomic_append (unlimited_eager_ne_nil M (some p)) M p
      _ = (unlimited .eager M last?).atomic p := by
        rw [atomic, unlimited, if_neg moved]
        rfl

/-- In either case there is an end. -/
theorem optional_eager_ne_nil (M : Matcher) (last? : Option Position) (p : Position) :
    optional amount .eager M last? p ≠ [] := by
  unfold optional
  cases amount.high? with
  | some high => exact upTo_eager_ne_nil M _ p
  | none => exact unlimited_eager_ne_nil M last? p

/-- In either case the first end is kept. -/
theorem optional_possessive (M : Matcher) (last? : Option Position) :
    optional amount .possessive M.atomic last? = (optional amount .eager M last?).atomic := by
  unfold optional
  cases amount.high? with
  | some high => exact upTo_possessive M _
  | none => exact funext (unlimited_possessive M last?)

theorem optionalWithin_eager_ne_nil (M : Matcher) (last? : Option Position) (p : Position) :
    optionalWithin steps? watched amount .eager M last? p ≠ [] := by
  unfold optionalWithin
  cases if amount.high?.isNone && !watched then steps? else none with
  | some count => exact upTo_eager_ne_nil M count p
  | none => exact optional_eager_ne_nil M last? p

/-- Behind the required passes, a possessive loop keeps the first end of an eager one. -/
theorem optionalWithin_possessive (M : Matcher) :
    optionalWithin steps? watched amount .possessive M.atomic =
      fun last? => (optionalWithin steps? watched amount .eager M last?).atomic := by
  funext last?
  unfold optionalWithin
  cases if amount.high?.isNone && !watched then steps? else none with
  | some count => exact upTo_possessive M count
  | none => exact optional_possessive M last?

/-- Behind required passes with one end at most, only the first end of what follows is reached. -/
theorem required_atomic (M : Matcher) (count : Nat) (last? : Option Position) :
    required M.atomic (fun last? => (after last?).atomic) count last? =
      (required M.atomic after count last?).atomic := by
  induction count generalizing last? with
  | zero => rfl
  | succ count ih =>
    funext p
    simp only [required, atomic]
    cases M p with
    | nil => rfl
    | cons q ends => simpa [atomic] using congrFun (ih (some p)) q

/-- Where the first end of a required pass leads on to nothing, passes that give nothing back
fail. -/
theorem required_atomic_or (filled : ∀ last? p, after last? p ≠ []) (M : Matcher) (count : Nat)
    (last? : Option Position) (p : Position) :
    required M.atomic (fun last? => (after last?).atomic) count last? p =
        (required M after count last?).atomic p ∨
      2 ≤ count ∧ required M.atomic (fun last? => (after last?).atomic) count last? p = [] := by
  induction count generalizing last? p with
  | zero => exact .inl rfl
  | succ count ih =>
    simp only [required]
    cases passes : M p with
    | nil => simp [atomic, passes]
    | cons q ends =>
      simp only [atomic, passes, List.take_succ_cons, List.take_zero, List.flatMap_cons,
        List.flatMap_nil, List.append_nil] at ih ⊢
      have ih := ih (some p) q
      cases behind : required M after count (some p) q with
      | nil =>
        -- nothing follows the first end, so that there is a pass that fails behind it
        have another : count ≠ 0 := by
          rintro rfl
          exact filled _ _ behind
        rw [behind, List.take_nil] at ih
        exact .inr ⟨by omega, ih.elim id And.right⟩
      | cons r rest =>
        rw [behind] at ih
        rcases ih with same | ⟨several, fails⟩
        · exact .inl same
        · exact .inr ⟨by omega, fails⟩

/-- A possessive loop is an atomic group around an eager loop whose passes are atomic groups. -/
theorem repeatedWithin_possessive (steps? : Option Nat) (watched : Bool) (amount : Amount)
    (M : Matcher) : repeatedWithin steps? watched amount .possessive M =
      (repeatedWithin steps? watched amount .eager M.atomic).atomic := by
  -- keeping the first end twice is keeping it once
  have single : M.atomic.atomic = M.atomic := by
    funext p
    simp only [atomic, List.take_take, Nat.min_self]
  calc repeatedWithin steps? watched amount .possessive M
    _ = required M.atomic (optionalWithin steps? watched amount .possessive M.atomic.atomic)
        amount.low none := by
      rw [single]
      rfl
    _ = (required M.atomic (optionalWithin steps? watched amount .eager M.atomic)
        amount.low none).atomic := by
      rw [optionalWithin_possessive, required_atomic]

/-- A possessive loop is an atomic group around an eager loop, unless it fails behind a pass that
gives nothing back. -/
theorem repeatedWithin_possessive_or (steps? : Option Nat) (watched : Bool) (amount : Amount)
    (M : Matcher) (p : Position) :
    repeatedWithin steps? watched amount .possessive M p =
        (repeatedWithin steps? watched amount .eager M).atomic p ∨
      2 ≤ amount.low ∧ repeatedWithin steps? watched amount .possessive M p = [] := by
  have loop : repeatedWithin steps? watched amount .possessive M =
      required M.atomic (fun last? => (optionalWithin steps? watched amount .eager M last?).atomic)
        amount.low none := by
    rw [← optionalWithin_possessive]
    rfl
  rw [loop]
  exact required_atomic_or (optionalWithin_eager_ne_nil M) M amount.low none p

end Matcher

/-! ## Programs -/

open Repeat

namespace Pattern

variable {level : MatchLevel} {X Y : Pattern}

/-- A possessive loop visits what the atomic group with atomic passes visits. -/
theorem visits_possessive (steps? : Option Nat) (level : MatchLevel) (subject : Text)
    (amount : Amount) (X : Pattern) :
    (repetition amount .possessive X).visits steps? level subject =
      (group .atomic (.repetition amount .eager (.group .atomic X))).visits steps? level
        subject := by
  simp only [visits, GroupKind.ends]
  split
  · rfl
  · exact Matcher.repeatedWithin_possessive steps? X.mayBeEmpty amount _

/-- With passes that are not atomic, it visits the same or fails. -/
theorem visits_possessive_or (steps? : Option Nat) (level : MatchLevel) (subject : Text)
    (amount : Amount) (X : Pattern) (p : Position) :
    (repetition amount .possessive X).visits steps? level subject p =
        (group .atomic (.repetition amount .eager X)).visits steps? level subject p ∨
      2 ≤ amount.low ∧ (repetition amount .possessive X).visits steps? level subject p = [] := by
  simp only [visits, GroupKind.ends]
  split
  · exact .inl rfl
  · exact Matcher.repeatedWithin_possessive_or steps? X.mayBeEmpty amount _ p

/-- A supported pattern in front of one that has a program has a program together with it. -/
theorem exists_compile_pair {t : Pattern} {y : Program} (supported : t.isSupported = true)
    (compiled : Y.compile level = .ok y) : ∃ p, (concatenation [t, Y]).compile level = .ok p := by
  have supported' := (compile_ok_iff level Y).1 ⟨y, compiled⟩
  refine (compile_ok_iff level _).2 ?_
  simp only [isSupported, isLevelable, hasCode, allLevelable, allHaveCode, Bool.and_eq_true] at *
  exact ⟨⟨supported.1, supported'.1, trivial⟩, supported.2, supported'.2, trivial⟩

/-- The registers of a loop depend neither on its greed nor on atomic groups. -/
theorem afterAll_repeats_possessive (amount : Amount) (X Y : Pattern) (c : Cursor) :
    afterAll c (concatenation [.repetition amount .possessive X, Y]).repeats =
        afterAll c (concatenation [.group .atomic (.repetition amount .eager X), Y]).repeats ∧
      afterAll c (concatenation [.repetition amount .possessive X, Y]).repeats =
        afterAll c (concatenation
          [.group .atomic (.repetition amount .eager (.group .atomic X)), Y]).repeats := by
  simp only [repeats, repeatsAll]
  split <;> exact ⟨rfl, rfl⟩

/-- Programs of two patterns in front of the same one make their answers in the same way from the
ends that they visit of the two. -/
theorem exists_answer_of_visits {t t' : Pattern} {p p' : Program} {subject : Text}
    {acceptAtEnd : Bool} {start : Nat} {limits limits' : Limits} {r r' : Option Position}
    (compiled : (concatenation [t, Y]).compile level = .ok p)
    (compiled' : (concatenation [t', Y]).compile level = .ok p')
    (few : p.FewRegisters) (few' : p'.FewRegisters)
    (ran : (⟨p, subject, acceptAtEnd⟩ : Machine).runAt limits start = .ok r)
    (ran' : (⟨p', subject, acceptAtEnd⟩ : Machine).runAt limits' start = .ok r') :
    ∃ (steps : Nat) (q : Position) (answer : List Position → Option Position),
      answer [] = none ∧ r = answer (t.visits (some steps) level subject q) ∧
      r' = answer (t'.visits (some steps) level subject q) := by
  obtain ⟨q, n, found, answers⟩ := exists_eq_find?_visits compiled few ran
  obtain ⟨q', n', found', answers'⟩ := exists_eq_find?_visits compiled' few' ran'
  obtain rfl : q = q' := Option.some.inj (found.symm.trans found')
  -- enough steps for both runs
  let steps := max n n'
  let later : Matcher := .all [Y.visits (some steps) level subject]
  exact ⟨steps, q,
    fun ends => (ends.flatMap later).find? (Machine.acceptsAt ⟨p, subject, acceptAtEnd⟩), rfl,
    answers steps (Nat.le_max_left n n'), answers' steps (Nat.le_max_right n n')⟩

/-- A possessive loop means the atomic group around the eager loop whose passes are atomic groups:
in front of any pattern, programs of the two have the same answers. If the passes are not atomic
groups, the answers are the same but for loops that require two passes or more, of which the
possessive one may find no match. -/
theorem runAt_possessive {x y : Program} (hX : X.compile level = .ok x)
    (hY : Y.compile level = .ok y) (amount : Amount) :
    ∃ p q q' : Program,
      (concatenation [.repetition amount .possessive X, Y]).compile level = .ok p ∧
      (concatenation [.group .atomic (.repetition amount .eager X), Y]).compile level = .ok q ∧
      (concatenation [.group .atomic (.repetition amount .eager (.group .atomic X)), Y]).compile
        level = .ok q' ∧
      (p.FewRegisters → ∀ (subject : Text) (acceptAtEnd : Bool) (start : Nat)
        (limits limits' : Limits) (r r' : Option Position),
        (⟨p, subject, acceptAtEnd⟩ : Machine).runAt limits start = .ok r →
        ((⟨q', subject, acceptAtEnd⟩ : Machine).runAt limits' start = .ok r' → r = r') ∧
        ((⟨q, subject, acceptAtEnd⟩ : Machine).runAt limits' start = .ok r' →
          r = r' ∨ 2 ≤ amount.low ∧ r = none)) := by
  have supported := (compile_ok_iff level X).1 ⟨x, hX⟩
  have atomic {t : Pattern} (supported : t.isSupported = true) :
      (group .atomic (.repetition amount .eager t)).isSupported = true :=
    isSupported_repetition supported amount .eager
  obtain ⟨p, compiled⟩ :=
    exists_compile_pair (isSupported_repetition supported amount .possessive) hY
  obtain ⟨q, compiledAtomic⟩ := exists_compile_pair (atomic supported) hY
  obtain ⟨q', compiledAtomic'⟩ :=
    exists_compile_pair (atomic (t := .group .atomic X) supported) hY
  refine ⟨p, q, q', compiled, compiledAtomic, compiledAtomic', ?_⟩
  intro few subject acceptAtEnd start limits limits' r r' ran
  obtain ⟨registers, registers'⟩ := afterAll_repeats_possessive amount X Y .start
  constructor
  · intro ran'
    -- the programs have the same registers, so each run goes by the ends that it visits
    have few' := fewRegisters_of_afterAll compiled compiledAtomic' registers' few
    obtain ⟨steps, here, answer, _, rfl, rfl⟩ :=
      exists_answer_of_visits compiled compiledAtomic' few few' ran ran'
    rw [visits_possessive]
  · intro ran'
    have few' := fewRegisters_of_afterAll compiled compiledAtomic registers few
    obtain ⟨steps, here, answer, nowhere, rfl, rfl⟩ :=
      exists_answer_of_visits compiled compiledAtomic few few' ran ran'
    rcases visits_possessive_or (some steps) level subject amount X here with
      same | ⟨several, fails⟩
    · exact .inl (by rw [same])
    · exact .inr ⟨several, by rw [fails, nowhere]⟩

/-- In `a++a`, the loop does not leave the second of two scalars to what follows it. -/
theorem runAt_possessive_of_giving_nothing_back :
    let possessive : Program := ⟨#[.savePlaceholder, .fence, .matchText ['a'] .scalar, .cut false,
      .clear, .split 1 6, .matchText ['a'] .scalar, .accept], .empty, #[], 0⟩
    let atomic : Program := ⟨#[.fence, .matchText ['a'] .scalar, .split 1 3, .cut false,
      .matchText ['a'] .scalar, .accept], .empty, #[], 0⟩
    let atomic' : Program := ⟨#[.fence, .fence, .matchText ['a'] .scalar, .cut false, .split 1 5,
      .cut false, .matchText ['a'] .scalar, .accept], .empty, #[], 0⟩
    (⟨possessive, ['a', 'a'], false⟩ : Machine).runAt .standard 0 =
        (⟨atomic', ['a', 'a'], false⟩ : Machine).runAt .standard 0 ∧
      (⟨possessive, ['a', 'a'], false⟩ : Machine).runAt .standard 0 =
        (⟨atomic, ['a', 'a'], false⟩ : Machine).runAt .standard 0 := by
  intro possessive atomic atomic'
  let X : Pattern := .atom (.char ['a'])
  have compiled :
      X.compile .scalar = .ok ⟨#[.matchText ['a'] .scalar, .accept], .empty, #[], 0⟩ := by
    decide +kernel
  obtain ⟨p, q, q', hp, hq, hq', same⟩ := runAt_possessive compiled compiled .oneOrMore
  obtain rfl : possessive = p := Except.ok.inj (Eq.trans (by decide +kernel) hp)
  obtain rfl : atomic = q := Except.ok.inj (Eq.trans (by decide +kernel) hq)
  obtain rfl : atomic' = q' := Except.ok.inj (Eq.trans (by decide +kernel) hq')
  have ran : (⟨possessive, ['a', 'a'], false⟩ : Machine).runAt .standard 0 = .ok none := by
    decide +kernel
  have ran' : (⟨atomic, ['a', 'a'], false⟩ : Machine).runAt .standard 0 = .ok none := by
    decide +kernel
  have ran'' : (⟨atomic', ['a', 'a'], false⟩ : Machine).runAt .standard 0 = .ok none := by
    decide +kernel
  have answers := same ⟨by decide, by decide⟩ ['a', 'a'] false 0 .standard .standard none none ran
  constructor
  · calc (⟨possessive, ['a', 'a'], false⟩ : Machine).runAt .standard 0
      _ = .ok none := ran
      _ = .ok none := congrArg Except.ok (answers.1 ran'')
      _ = (⟨atomic', ['a', 'a'], false⟩ : Machine).runAt .standard 0 := ran''.symm
  · -- one required pass is not enough for the loop to fail earlier
    have answer : (none : Option Position) = none :=
      (answers.2 ran').resolve_right fun fails => absurd fails.1 (by decide)
    calc (⟨possessive, ['a', 'a'], false⟩ : Machine).runAt .standard 0
      _ = .ok none := ran
      _ = .ok none := congrArg Except.ok answer
      _ = (⟨atomic, ['a', 'a'], false⟩ : Machine).runAt .standard 0 := ran'.symm

/-- In `(?:aa|a){2}+`, the second pass fails behind the two scalars of the first, which an atomic
group around the eager loop makes take one scalar only. -/
theorem runAt_possessive_ne_atomic :
    let X : Pattern := .alternation [.concatenation [.atom (.char ['a']), .atom (.char ['a'])],
      .atom (.char ['a'])]
    ∃ p q : Program,
      (concatenation [.repetition (.exactly 2) .possessive X, .empty]).compile .scalar = .ok p ∧
      (concatenation [.group .atomic (.repetition (.exactly 2) .eager X), .empty]).compile .scalar =
        .ok q ∧
      p.FewRegisters ∧ q.FewRegisters ∧
      (⟨p, ['a', 'a'], false⟩ : Machine).runAt .standard 0 = .ok none ∧
      (⟨q, ['a', 'a'], false⟩ : Machine).runAt .standard 0 = .ok (some ⟨2, []⟩) := by
  let possessive : Array (Instruction Nat) := #[.reset ⟨0⟩, .savePlaceholder, .condBranch 11 ⟨0⟩,
    .fence, .save 8, .matchText ['a'] .scalar, .matchText ['a'] .scalar, .branch 9,
    .matchText ['a'] .scalar, .cut false, .branch 2, .clear, .branch 14, .split 3 14, .accept]
  let atomic : Array (Instruction Nat) := #[.fence, .reset ⟨0⟩, .condBranch 9 ⟨0⟩, .save 7,
    .matchText ['a'] .scalar, .matchText ['a'] .scalar, .branch 8, .matchText ['a'] .scalar,
    .branch 2, .branch 11, .split 3 11, .cut false, .accept]
  refine ⟨⟨possessive, .empty, #[2], 0⟩, ⟨atomic, .empty, #[2], 0⟩, ?_, ?_, ⟨?_, ?_⟩, ⟨?_, ?_⟩, ?_,
    ?_⟩ <;> decide +kernel

end Pattern

end GraphemeRegex
