import GraphemeRegex.Proofs.Pattern.Erasing
import GraphemeRegex.Proofs.Semantics.Answers
import GraphemeRegex.Proofs.Semantics.Recognition
import GraphemeRegex.Regex

/-! # Languages — whole subjects that a pattern matches

At the scalar level, a pattern that only has sequences, branches, plain groups and loops that are
not possessive stands for a regular language. Matching a whole subject decides that language.

* `Pattern.isRegular`: the patterns that stand for a language.
* `Pattern.language`: their languages.
* `Pattern.ends_recognizes`: the ends of such a pattern are the words of its language.
* `Pattern.isSome_iff_mem_language`: a run that accepts at the end of its subject only decides the
  language.
-/

namespace GraphemeRegex

open Matcher

/-! ## Regular patterns -/

/-- Whether an atom stands for words of scalars at the scalar level. -/
def Atom.isRegular : Atom → Bool
  | char text => !text.isEmpty
  | scalar _ | any => true
  | cls family => !family.consumesCluster
  | property _ _ | anchor _ | backreference _ => false

namespace Pattern

mutual

/-- Whether the pattern stands for a regular language. -/
def isRegular : Pattern → Bool
  | alternation branches => !branches.isEmpty && allRegular branches
  | concatenation items => allRegular items
  | group kind body => kind.isTransparent && isRegular body
  | repetition _ greed body => greed != .possessive && isRegular body
  | quote _ | trivia _ | empty => true
  | atom a => a.isRegular
  | transformed _ _ _ | leveled _ _ | custom _ _ => false

/-- Whether all patterns of a list stand for regular languages. -/
def allRegular : List Pattern → Bool
  | [] => true
  | p :: ps => isRegular p && allRegular ps

end

mutual

/-- A pattern that stands for a regular language is proper. -/
theorem isProper_of_isRegular : ∀ t : Pattern, t.isRegular = true → t.isProper = true
  | alternation branches, regular => by
    rw [isRegular, Bool.and_eq_true] at regular
    rw [isProper, Bool.and_eq_true]
    exact ⟨regular.1, allProper_of_allRegular branches regular.2⟩
  | concatenation items, regular => allProper_of_allRegular items regular
  | group _ body, regular => by
    rw [isRegular, Bool.and_eq_true] at regular
    exact isProper_of_isRegular body regular.2
  | repetition _ _ body, regular => by
    rw [isRegular, Bool.and_eq_true] at regular
    exact isProper_of_isRegular body regular.2
  | quote _, _ | trivia _, _ | empty, _ => rfl
  | atom a, regular => by
    cases a with
    | char text => exact regular
    | _ => rfl
  | transformed _ _ _, regular | leveled _ _, regular | custom _ _, regular => nomatch regular

/-- Patterns of a list that stand for languages are proper. -/
theorem allProper_of_allRegular : ∀ ts : List Pattern, allRegular ts = true → allProper ts = true
  | [], _ => rfl
  | t :: ts, regular => by
    rw [allRegular, Bool.and_eq_true] at regular
    rw [allProper, Bool.and_eq_true]
    exact ⟨isProper_of_isRegular t regular.1, allProper_of_allRegular ts regular.2⟩

end

end Pattern

/-! ## Languages -/

/-- The words of an atom. -/
def Atom.language : Atom → Language Char
  | char text => {text}
  | scalar c => {[c]}
  | any => {w | ∃ c, w = [c]}
  | cls family => {w | ∃ c, family.accepts c = true ∧ w = [c]}
  | property _ _ | anchor _ | backreference _ => 0

namespace Pattern

mutual

/-- The words of a pattern. -/
def language : Pattern → Language Char
  | alternation branches => (languages branches).sum
  | concatenation items => (languages items).prod
  | group _ body => language body
  | repetition amount _ body => if amount.isDegenerate then 1 else amount.powers (language body)
  | quote text => {text}
  | trivia _ | empty => 1
  | atom a => a.language
  | transformed _ _ _ | leveled _ _ | custom _ _ => 0

/-- The words of each pattern of a list. -/
def languages : List Pattern → List (Language Char)
  | [] => []
  | p :: ps => language p :: languages ps

end

end Pattern

/-! ## Ends and words -/

/-- One scalar that passes a test recognizes the scalars that do. -/
theorem Matcher.recognizes_scalar {test : Char → Bool} :
    (unit fun p => (p.nextScalar?.filter (test ·.1)).map fun (c, q) => ([c], q)).Recognizes
      {w | ∃ c, test c = true ∧ w = [c]} := by
  intro p q
  rw [mem_unit]
  constructor
  · rintro ⟨text, h⟩
    rcases Option.map_eq_some_iff.1 h with ⟨⟨c, q'⟩, passed, pair⟩
    -- the scalar that is taken passes the test, and is the word
    rcases Option.filter_eq_some_iff.1 passed with ⟨found, holds⟩
    cases pair
    exact ⟨[c], ⟨c, holds, rfl⟩, Position.nextScalar?_eq_some_iff.1 found⟩
  · rintro ⟨_, ⟨c, holds, rfl⟩, found⟩
    rw [Position.nextScalar?_eq_some_iff.2 found]
    exact ⟨[c], by simp [holds]⟩

/-- A regular atom matches its words. -/
theorem Atom.ends_recognizes {a : Atom} (regular : a.isRegular = true) :
    (a.ends .scalar).Recognizes a.language := by
  cases a with
  | char text => exact recognizes_text text
  | scalar c => exact recognizes_text [c]
  | any =>
    intro p q
    rw [Atom.ends, mem_unit]
    constructor
    · rintro ⟨text, h⟩
      rcases Option.map_eq_some_iff.1 h with ⟨⟨c, _⟩, found, pair⟩
      cases pair
      exact ⟨[c], ⟨c, rfl⟩, Position.nextScalar?_eq_some_iff.1 found⟩
    · rintro ⟨_, ⟨c, rfl⟩, found⟩
      refine ⟨[c], ?_⟩
      rw [Position.nextUnit?, Position.nextScalar?_eq_some_iff.2 found]
      rfl
  | cls family =>
    -- at the scalar level, a class that is regular takes one scalar
    have single : (MatchLevel.scalar == .grapheme || family.consumesCluster) = false := by
      simpa [Atom.isRegular] using regular
    have same : ((Atom.cls family).ends .scalar : Matcher) = unit fun p =>
        (p.nextScalar?.filter (family.accepts ·.1)).map fun (c, q) => ([c], q) := by
      funext p
      rw [Atom.ends, unit, unit, Position.consume?, single]
      rfl
    rw [same]
    exact recognizes_scalar
  | property _ _ | anchor _ | backreference _ => cases regular

/-- Such a group matches what its body matches. -/
theorem GroupKind.ends_of_isTransparent {kind : GroupKind} (M : Matcher)
    (transparent : kind.isTransparent = true) : kind.ends M = M := by
  cases kind <;> first | rfl | cases transparent

namespace Pattern

mutual

/-- The ends of a regular pattern are the words of its language. -/
theorem ends_recognizes (subject : Text) : ∀ t : Pattern, t.isRegular = true →
    (t.ends .scalar subject).Recognizes t.language
  | alternation branches, regular => by
    rw [isRegular, Bool.and_eq_true] at regular
    exact alternation_recognizes subject branches regular.2
  | concatenation items, regular => all_recognizes subject items regular
  | group kind body, regular => by
    rw [isRegular, Bool.and_eq_true] at regular
    rw [ends, GroupKind.ends_of_isTransparent _ regular.1]
    exact ends_recognizes subject body regular.2
  | repetition amount greed body, regular => by
    rw [isRegular, Bool.and_eq_true, bne_iff_ne] at regular
    rw [ends, language]
    -- with nothing to repeat, only the empty word is left
    by_cases degenerate : amount.isDegenerate = true
    · rw [if_pos degenerate, if_pos degenerate]
      exact recognizes_nothing
    · rw [if_neg degenerate, if_neg degenerate]
      exact recognizes_repeated regular.1 (Bool.eq_false_iff.2 degenerate)
        (ends_recognizes subject body regular.2)
  | quote text, _ => recognizes_text text
  | trivia _, _ | empty, _ => recognizes_nothing
  | atom a, regular => a.ends_recognizes regular
  | transformed _ _ _, regular | leveled _ _, regular | custom _ _, regular => nomatch regular

/-- The words of a sequence are products of words. -/
theorem all_recognizes (subject : Text) : ∀ ts : List Pattern, allRegular ts = true →
    (all (endsAll .scalar subject ts)).Recognizes (languages ts).prod
  | [], _ => recognizes_nothing
  | t :: ts, regular => by
    rw [allRegular, Bool.and_eq_true] at regular
    rw [languages, List.prod_cons]
    exact recognizes_append (ends_recognizes subject t regular.1)
      (all_recognizes subject ts regular.2)

/-- The words of branches are the words of any of them. -/
theorem alternation_recognizes (subject : Text) : ∀ ts : List Pattern, allRegular ts = true →
    (Matcher.alternation (endsAll .scalar subject ts)).Recognizes (languages ts).sum
  | [], _ => recognizes_never
  | t :: ts, regular => by
    rw [allRegular, Bool.and_eq_true] at regular
    rw [languages, List.sum_cons]
    exact recognizes_or (ends_recognizes subject t regular.1)
      (alternation_recognizes subject ts regular.2)

end

/-! ## Whole subjects -/

/-- A run at the scalar level that accepts at the end of its subject only decides the language of a
regular pattern, and so does matching the whole subject. -/
theorem isSome_iff_mem_language {t : Pattern} {p : Program} {subject : Text} {limits : Limits}
    {r : Option Position} (regular : t.isRegular = true) (compiled : t.compile .scalar = .ok p)
    (few : p.FewRegisters) (ran : (⟨p, subject, true⟩ : Machine).runAt limits 0 = .ok r) :
    (r.isSome = true ↔ subject ∈ t.language) ∧
      ∀ x : Regex, x.program = p → x.limits = limits → x.matchesWhole subject = .ok r.isSome := by
  have begin : subject.positionAt? 0 = some subject.start :=
    Text.positionAt?_eq_some_iff.2 ⟨.refl _, rfl⟩
  have ran : (⟨p, subject, true⟩ : Machine).run limits subject.start = .ok r := by
    simpa only [Machine.runAt, begin] using ran
  constructor
  · have first := run_eq_find?_ends (isProper_of_isRegular t regular) compiled few ran
    rw [first, List.find?_isSome]
    constructor
    · rintro ⟨q, mem, accepted⟩
      rcases (ends_recognizes subject t regular _ q).1 mem with ⟨w, word, found⟩
      -- an end that is accepted has nothing behind it, so the word is the whole subject
      have whole : q.rest = [] :=
        (Text.offset_eq_byteLength_iff ⟨w, found⟩).1 (by simpa [Machine.acceptsAt] using accepted)
      have same : subject = w := by
        simpa [whole, Text.start] using (Position.after?_eq_some_iff.1 found).1
      exact same ▸ word
    · intro word
      have found : subject.start.after? subject = some ⟨subject.byteLength, []⟩ :=
        Position.after?_eq_some_iff.2 ⟨by simp [Text.start], by simp [Text.start]⟩
      refine ⟨_, (ends_recognizes subject t regular _ _).2 ⟨subject, word, found⟩, ?_⟩
      simp [Machine.acceptsAt]
  · intro x program same
    rw [Regex.matchesWhole, Regex.machine, program, same, ran]
    rfl

/-- In `(a?){2,}`, the last of the required passes may be empty. -/
theorem mem_language_of_empty_pass :
    ['a'] ∈ (repetition (.atLeast 2) .eager
      (.repetition .zeroOrOne .eager (.atom (.char ['a'])))).language := by
  let code : Array (Instruction Nat) := #[.reset ⟨0⟩, .unmark ⟨0⟩, .condBranch 10 ⟨0⟩, .mark ⟨0⟩,
    .reset ⟨1⟩, .branch 7, .matchText ['a'] .scalar, .condBranch 9 ⟨1⟩, .split 6 9, .branch 2,
    .checkProgress 12 ⟨0⟩, .split 3 12, .accept]
  have ran : Machine.runAt ⟨⟨code, .empty, #[2, 1], 1⟩, ['a'], true⟩ .standard 0 =
      .ok (some ⟨1, []⟩) := by decide +kernel
  exact (isSome_iff_mem_language (by decide) (by decide +kernel) ⟨by decide, by decide⟩ ran).1.1 rfl

end Pattern

end GraphemeRegex
