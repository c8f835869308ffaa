import GraphemeRegex.Proofs.Machine.Acceptance
import GraphemeRegex.Proofs.Pattern.Regreeding
import GraphemeRegex.Proofs.Semantics.Answers
import GraphemeRegex.Proofs.Semantics.Recognition

/-! # Greediness — which match is preferred, not whether there is one

An eager loop tries one more pass before it stops, a reluctant one stops before it tries one more.
Both can do both in the end, so their matches have the same ends in another order, and that remains
so in whatever stands around them, as long as nothing keeps only the first end of something.

* `Matcher.SameEnds`: matches with the same ends in any order.
* `Matcher.sameEnds_repeated`: loops, for any two greeds that give back.
* `Pattern.sameEnds_eagerly`: patterns without atomic groups and possessive loops.
* `Program.MatchesLike`: programs whose runs agree on whether there is a match.
* `Pattern.answers_of_eagerly`: what this says of the answers of regexes.
-/

namespace GraphemeRegex

/-! ## Matchers -/

namespace Matcher

/-- Matches end at the same positions, in whatever order they are tried. -/
def SameEnds (M N : Matcher) : Prop := ∀ p q, q ∈ M p ↔ q ∈ N p

variable {M M' N N' : Matcher} {greed greed' : Greed} {p q : Position}

theorem SameEnds.refl (M : Matcher) : M.SameEnds M := fun _ _ => Iff.rfl

/-- There is an end in the one case if there is one in the other. -/
theorem SameEnds.isEmpty_eq (h : M.SameEnds N) (p : Position) : (M p).isEmpty = (N p).isEmpty := by
  rw [Bool.eq_iff_iff, List.isEmpty_iff, List.isEmpty_iff, List.eq_nil_iff_forall_not_mem,
    List.eq_nil_iff_forall_not_mem]
  exact forall_congr' fun q => not_congr (h p q)

/-- In a row, the ends of the second matcher are taken from the same ends of the first one. -/
theorem sameEnds_append (h : M.SameEnds M') (h' : N.SameEnds N') :
    (M.append N).SameEnds (M'.append N') := by
  intro p r
  rw [append, append, List.mem_flatMap, List.mem_flatMap]
  exact exists_congr fun q => and_congr (h p q) (h' q r)

/-- A lookahead only asks whether there is an end. -/
theorem sameEnds_lookahead (h : M.SameEnds N) : M.lookahead.SameEnds N.lookahead := by
  intro p q
  rw [lookahead, lookahead, h.isEmpty_eq p]

/-- Its negation asks the same. -/
theorem sameEnds_negated (h : M.SameEnds N) : M.negated.SameEnds N.negated := by
  intro p q
  rw [negated, negated, h.isEmpty_eq p]

/-! ## Loops -/

section Loops

variable {after after' : Option Position → Matcher}

/-- What is tried first does not matter for what is tried at all. -/
theorem sameEnds_prefer (free : greed ≠ .possessive) (free' : greed' ≠ .possessive)
    {more more' : List Position} (h : q ∈ more ↔ q ∈ more') :
    q ∈ greed.prefer more [p] ↔ q ∈ greed'.prefer more' [p] := by
  rw [mem_prefer free, mem_prefer free', h]

/-- Passes of a limited number. -/
theorem sameEnds_upTo (free : greed ≠ .possessive) (free' : greed' ≠ .possessive)
    (h : M.SameEnds N) (count : Nat) : (upTo greed M count).SameEnds (upTo greed' N count) := by
  induction count with
  | zero => exact .refl nothing
  | succ count ih =>
    intro p q
    exact sameEnds_prefer free free' (sameEnds_append h ih p q)

/-- One more pass is tried, or not, under the same conditions, which the order of trying does not
change. -/
theorem sameEnds_unlimited (free : greed ≠ .possessive) (free' : greed' ≠ .possessive)
    (h : M.SameEnds N) (last? : Option Position) :
    (unlimited greed M last?).SameEnds (unlimited greed' N last?) := by
  intro p r
  induction last?, p using unlimited.induct with
  | case1 last? p stuck => rw [unlimited, unlimited, if_pos stuck, if_pos stuck]
  | case2 last? p moved ih =>
    rw [unlimited, unlimited, if_neg moved, if_neg moved]
    refine sameEnds_prefer free free' ?_
    rw [List.mem_flatMap, List.mem_flatMap]
    exact exists_congr fun q => and_congr (h p q) (ih q)

/-- Optional passes, limited or not. -/
theorem sameEnds_optional (amount : Amount) (free : greed ≠ .possessive)
    (free' : greed' ≠ .possessive) (h : M.SameEnds N) (last? : Option Position) :
    (optional amount greed M last?).SameEnds (optional amount greed' N last?) := by
  unfold optional
  cases amount.high? with
  | some high => exact sameEnds_upTo free free' h _
  | none => exact sameEnds_unlimited free free' h last?

/-- Required passes are made in any case, so the order shows in what follows them only. -/
theorem sameEnds_required (h : M.SameEnds N) (h' : ∀ last?, (after last?).SameEnds (after' last?))
    (count : Nat) (last? : Option Position) :
    (required M after count last?).SameEnds (required N after' count last?) := by
  induction count generalizing last? with
  | zero => exact h' last?
  | succ count ih =>
    intro p
    exact sameEnds_append h (ih (some p)) p

/-- Loops that give back have the same ends, whichever number of passes they try first. -/
theorem sameEnds_repeated (amount : Amount) (free : greed ≠ .possessive)
    (free' : greed' ≠ .possessive) (h : M.SameEnds N) :
    (repeated amount greed M).SameEnds (repeated amount greed' N) := by
  rw [repeated, repeated, commit_of_free free, commit_of_free free']
  exact sameEnds_required h (sameEnds_optional amount free free' h) _ _

end Loops

end Matcher

open Matcher

/-! ## Patterns -/

/-- A loop that gives back is turned into one that does. -/
theorem Greed.eagerly_ne_possessive {greed : Greed} (free : greed ≠ .possessive) :
    greed.eagerly ≠ .possessive := by
  cases greed with
  | eager | reluctant => exact nofun
  | possessive => exact absurd rfl free

/-- All groups but atomic ones keep the same ends. -/
theorem GroupKind.sameEnds_ends {kind : GroupKind} {M N : Matcher} (free : kind ≠ .atomic)
    (h : M.SameEnds N) : (kind.ends M).SameEnds (kind.ends N) := by
  cases kind with
  | atomic => exact absurd rfl free
  | capture | named _ | nonCapture | branchReset | options _ _ => exact h
  | lookahead => exact sameEnds_lookahead h
  | negativeLookahead => exact sameEnds_negated h
  | _ => exact .refl never

namespace Pattern

section Ends

variable (level : MatchLevel) (subject : Text)

mutual

/-- Without atomic groups and possessive loops, it does not matter for the ends of matches which
loops are reluctant. -/
theorem sameEnds_eagerly : ∀ t : Pattern, t.givesBack = true →
    (t.ends level subject).SameEnds (t.eagerly.ends level subject)
  | alternation branches, free => sameEnds_alternation branches free
  | concatenation items, free => sameEnds_all items free
  | group kind body, free => by
    rw [givesBack, Bool.and_eq_true, bne_iff_ne] at free
    exact GroupKind.sameEnds_ends free.1 (sameEnds_eagerly body free.2)
  | transformed _ _ body, free => sameEnds_eagerly body free
  | repetition amount greed body, free => by
    rw [givesBack, Bool.and_eq_true, bne_iff_ne] at free
    rw [eagerly, ends, ends]
    split
    · exact .refl nothing
    · exact sameEnds_repeated amount free.1 (Greed.eagerly_ne_possessive free.1)
        (sameEnds_eagerly body free.2)
  | quote _, _ | trivia _, _ | atom _, _ | leveled _ _, _ | custom _ _, _ | empty, _ => .refl _

/-- Items of a sequence. -/
theorem sameEnds_all : ∀ ts : List Pattern, allGiveBack ts = true →
    (all (endsAll level subject ts)).SameEnds (all (endsAll level subject (eagerlyAll ts)))
  | [], _ => .refl nothing
  | t :: ts, free => by
    rw [allGiveBack, Bool.and_eq_true] at free
    exact sameEnds_append (sameEnds_eagerly t free.1) (sameEnds_all ts free.2)

/-- Branches of an alternation. -/
theorem sameEnds_alternation : ∀ ts : List Pattern, allGiveBack ts = true →
    (Matcher.alternation (endsAll level subject ts)).SameEnds
      (Matcher.alternation (endsAll level subject (eagerlyAll ts)))
  | [], _ => .refl never
  | t :: ts, free => by
    rw [allGiveBack, Bool.and_eq_true] at free
    intro p q
    have first := sameEnds_eagerly t free.1 p q
    have others := sameEnds_alternation ts free.2 p q
    exact List.mem_append.trans ((or_congr first others).trans List.mem_append.symm)

end

/-- Trees that differ in which loops are reluctant have the same ends. -/
theorem sameEnds_of_eagerly {t t' : Pattern} (free : t.givesBack = true)
    (same : t'.eagerly = t.eagerly) : (t.ends level subject).SameEnds (t'.ends level subject) := by
  have free' : t'.givesBack = true := by rw [← givesBack_eagerly, same, givesBack_eagerly, free]
  have first := sameEnds_eagerly level subject t free
  have second := sameEnds_eagerly level subject t' free'
  rw [same] at second
  exact fun p q => (first p q).trans (second p q).symm

end Ends

end Pattern

/-! ## Programs -/

/-- Among the same ends, one is accepted in whatever order they are tried. -/
theorem Matcher.SameEnds.isSome_find?_eq {M N : Matcher} (h : M.SameEnds N) (p : Position)
    (accepts : Position → Bool) :
    ((M p).find? accepts).isSome = ((N p).find? accepts).isSome := by
  rw [Bool.eq_iff_iff, List.find?_isSome, List.find?_isSome]
  exact exists_congr fun q => and_congr_left fun _ => h p q

/-- Runs of two programs that begin at the same position agree on whether there is a match. -/
def Program.MatchesLike (p p' : Program) : Prop :=
  ∀ (subject : Text) (acceptAtEnd : Bool) (start : Position) (limits limits' : Limits)
    (a a' : Option Position),
    (⟨p, subject, acceptAtEnd⟩ : Machine).run limits start = .ok a →
    (⟨p', subject, acceptAtEnd⟩ : Machine).run limits' start = .ok a' → a.isSome = a'.isSome

namespace Pattern

variable {t t' : Pattern} {level : MatchLevel} {p p' : Program}

/-- Patterns with the same ends have programs that match alike. -/
theorem matchesLike_of_sameEnds (compiled : t.compile level = .ok p)
    (compiled' : t'.compile level = .ok p') (proper : t.isProper = true)
    (proper' : t'.isProper = true) (few : p.FewRegisters) (few' : p'.FewRegisters)
    (same : ∀ subject, (t.ends level subject).SameEnds (t'.ends level subject)) :
    p.MatchesLike p' := by
  intro subject acceptAtEnd start limits limits' a a' ran ran'
  have answer := run_eq_find?_ends (m := ⟨p, subject, acceptAtEnd⟩) proper compiled few ran
  have answer' := run_eq_find?_ends (m := ⟨p', subject, acceptAtEnd⟩) proper' compiled' few' ran'
  rw [answer, answer']
  exact (same subject).isSome_find?_eq start _

/-- Trees that differ in which loops are reluctant have programs that match alike. -/
theorem exists_matchesLike (free : t.givesBack = true) (proper : t.isProper = true)
    (same : t'.eagerly = t.eagerly) (compiled : t.compile level = .ok p) (few : p.FewRegisters) :
    ∃ p', t'.compile level = .ok p' ∧ p.MatchesLike p' := by
  have supported : t'.isSupported = true := by
    rw [← isSupported_eagerly, same, isSupported_eagerly]
    exact (compile_ok_iff level t).1 ⟨p, compiled⟩
  have proper' : t'.isProper = true := by rw [← isProper_eagerly, same, isProper_eagerly, proper]
  -- the two programs have the same number of registers
  have registers : Repeat.afterAll .start t.repeats = Repeat.afterAll .start t'.repeats := by
    rw [← afterAll_repeats_eagerly, ← same, afterAll_repeats_eagerly]
  obtain ⟨p', compiled'⟩ := (compile_ok_iff level t').2 supported
  have few' := fewRegisters_of_afterAll compiled compiled' registers few
  refine ⟨p', compiled', ?_⟩
  exact matchesLike_of_sameEnds compiled compiled' proper proper' few few' fun subject =>
    sameEnds_of_eagerly level subject free same

end Pattern

/-! ## Regexes -/

namespace Program.MatchesLike

variable {p p' : Program} {r r' : Regex} {subject : Text} {start : Nat} {limits limits' : Limits}

/-- Both match at the same offsets. -/
theorem isSome_matchAt_eq (h : r.program.MatchesLike r'.program) {a a' : Option Position}
    (ran : r.matchAt subject start = .ok a) (ran' : r'.matchAt subject start = .ok a') :
    a.isSome = a'.isSome := by
  unfold Regex.matchAt at ran ran'
  cases found : subject.positionAt? start with
  | none =>
    rw [found] at ran ran'
    cases ran
    cases ran'
    rfl
  | some q =>
    rw [found] at ran ran'
    exact h subject false q r.limits r'.limits a a' ran ran'

/-- What is accepted at the end only is the same. -/
theorem runAt_acceptAtEnd_eq (h : p.MatchesLike p') {a a' : Option Position}
    (ran : (⟨p, subject, true⟩ : Machine).runAt limits start = .ok a)
    (ran' : (⟨p', subject, true⟩ : Machine).runAt limits' start = .ok a') : a = a' := by
  have alike : a.isSome = a'.isSome := by
    unfold Machine.runAt at ran ran'
    cases found : subject.positionAt? start with
    | none =>
      rw [found] at ran
      cases ran
    | some q =>
      rw [found] at ran ran'
      exact h subject true q limits limits' a a' ran ran'
  cases a with
  | none => exact (Option.isNone_iff_eq_none.1 (by simpa using alike.symm)).symm
  | some q =>
    obtain ⟨q', rfl⟩ := Option.isSome_iff_exists.1 alike.symm
    -- there is only one end to be accepted
    rw [Machine.eq_end_of_runAt ran, Machine.eq_end_of_runAt ran']

/-- The first position with a match is the same. -/
theorem isSome_findFrom_eq (h : r.program.MatchesLike r'.program) {starts : List Position}
    {a a' : Option (Position × Position)} (found : r.findFrom subject starts = .ok a)
    (found' : r'.findFrom subject starts = .ok a') : a.isSome = a'.isSome := by
  induction starts with
  | nil =>
    cases found
    cases found'
    rfl
  | cons begin later ih =>
    rw [Regex.findFrom] at found found'
    cases ran : r.runAt subject begin with
    | error e =>
      rw [ran] at found
      cases found
    | ok b =>
      cases ran' : r'.runAt subject begin with
      | error e =>
        rw [ran'] at found'
        cases found'
      | ok b' =>
        -- at this position both match or neither does
        have alike := h subject false begin r.limits r'.limits b b' ran ran'
        rw [ran] at found
        rw [ran'] at found'
        cases b with
        | none =>
          obtain rfl : b' = none := Option.isNone_iff_eq_none.1 (by simpa using alike.symm)
          exact ih found found'
        | some q =>
          obtain ⟨q', rfl⟩ := Option.isSome_iff_exists.1 alike.symm
          cases found
          cases found'
          rfl

/-- Both match in the same subjects. -/
theorem isMatch_eq (h : r.program.MatchesLike r'.program) (level : r.level = r'.level) {b b' : Bool}
    (found : r.isMatch subject = .ok b) (found' : r'.isMatch subject = .ok b') : b = b' := by
  have starts : r.startPositions subject = r'.startPositions subject := by
    rw [Regex.startPositions, Regex.startPositions, level]
  obtain ⟨a, search, rfl⟩ := exists_of_map_eq_ok found
  obtain ⟨a', search', rfl⟩ := exists_of_map_eq_ok found'
  rw [Regex.find?, starts] at search
  exact h.isSome_findFrom_eq search search'

/-- Both match the same whole subjects. -/
theorem matchesWhole_eq (h : r.program.MatchesLike r'.program) {b b' : Bool}
    (found : r.matchesWhole subject = .ok b) (found' : r'.matchesWhole subject = .ok b') :
    b = b' := by
  obtain ⟨a, ran, rfl⟩ := exists_of_map_eq_ok found
  obtain ⟨a', ran', rfl⟩ := exists_of_map_eq_ok found'
  exact h subject true subject.start r.limits r'.limits a a' ran ran'

end Program.MatchesLike

namespace Pattern

variable {t t' : Pattern} {level : MatchLevel} {p : Program}

/-- Which loops are reluctant changes the match that is preferred, and not whether there is one.
Take a pattern without atomic groups and possessive loops, and turn any of its eager loops into
reluctant ones or back. As long as no limit stops a run, the two regexes match at the same offsets,
in the same subjects and the same whole subjects, and what is accepted at the end only is the
same. -/
theorem answers_of_eagerly (free : t.givesBack = true) (proper : t.isProper = true)
    (same : t'.eagerly = t.eagerly) (compiled : t.compile level = .ok p) (few : p.FewRegisters) :
    ∃ p', t'.compile level = .ok p' ∧
      ∀ r r' : Regex, r.program = p → r'.program = p' → r.level = r'.level → ∀ subject : Text,
        (∀ start a a', r.matchAt subject start = .ok a → r'.matchAt subject start = .ok a' →
          a.isSome = a'.isSome) ∧
        (∀ start a a', (r.machine subject true).runAt r.limits start = .ok a →
          (r'.machine subject true).runAt r'.limits start = .ok a' → a = a') ∧
        (∀ b b', r.isMatch subject = .ok b → r'.isMatch subject = .ok b' → b = b') ∧
        ∀ b b', r.matchesWhole subject = .ok b → r'.matchesWhole subject = .ok b' → b = b' := by
  obtain ⟨p', compiled', alike⟩ := exists_matchesLike free proper same compiled few
  refine ⟨p', compiled', ?_⟩
  rintro r r' rfl rfl level subject
  refine ⟨?_, ?_, ?_, ?_⟩
  · exact fun _ _ _ => alike.isSome_matchAt_eq
  · exact fun _ _ _ => alike.runAt_acceptAtEnd_eq
  · exact fun _ _ => alike.isMatch_eq level
  · exact fun _ _ => alike.matchesWhole_eq

/-- In `aaab`, the eager `(?:a{1,2}){2}` takes three scalars and `(?:a{1,2}?){2}` two of them. What
the one matches as a whole, the other does, too. -/
theorem answers_of_eagerly_of_nested :
    let eager : Pattern := .repetition (.exactly 2) .eager
      (.repetition (.between 1 2) .eager (.atom (.char ['a'])))
    let reluctant : Pattern := .repetition (.exactly 2) .eager
      (.repetition (.between 1 2) .reluctant (.atom (.char ['a'])))
    ∃ p p', eager.compile .scalar = .ok p ∧ reluctant.compile .scalar = .ok p' ∧
      (⟨p, ['a', 'a', 'a', 'b'], false⟩ : Machine).runAt .standard 0 = .ok (some ⟨3, ['b']⟩) ∧
      (⟨p', ['a', 'a', 'a', 'b'], false⟩ : Machine).runAt .standard 0 =
        .ok (some ⟨2, ['a', 'b']⟩) ∧
      ∀ a, (⟨p', ['a', 'a', 'a'], true⟩ : Machine).runAt .standard 0 = .ok a →
        a = some ⟨3, []⟩ := by
  intro eager reluctant
  let code (last : Instruction Nat) : Array (Instruction Nat) := #[.reset ⟨0⟩, .condBranch 7 ⟨0⟩,
    .reset ⟨1⟩, .matchText ['a'] .scalar, .condBranch 6 ⟨1⟩, last, .branch 1, .branch 9,
    .split 2 9, .accept]
  let p : Program := ⟨code (.split 3 6), .empty, #[2, 1], 0⟩
  let p' : Program := ⟨code (.save 3), .empty, #[2, 1], 0⟩
  have compiled : eager.compile .scalar = .ok p := by decide +kernel
  have compiled' : reluctant.compile .scalar = .ok p' := by decide +kernel
  have ran : (⟨p, ['a', 'a', 'a'], true⟩ : Machine).runAt .standard 0 = .ok (some ⟨3, []⟩) := by
    decide +kernel
  have regreeded : reluctant.eagerly = eager.eagerly := rfl
  obtain ⟨q, found, same⟩ := answers_of_eagerly rfl rfl regreeded compiled ⟨by decide, by decide⟩
  obtain rfl : p' = q := Except.ok.inj (compiled'.symm.trans found)
  obtain ⟨-, accepted, -⟩ := same ⟨[], p, .scalar, .standard⟩ ⟨[], p', .scalar, .standard⟩ rfl rfl
    rfl ['a', 'a', 'a']
  refine ⟨p, p', compiled, compiled', by decide +kernel, by decide +kernel, ?_⟩
  exact fun a ran' => (accepted 0 _ a ran ran').symm

end Pattern

end GraphemeRegex
