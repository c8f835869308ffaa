import GraphemeRegex.Proofs.Lowering.Correctness

/-! # Answers — what a compiled pattern answers

A run of a compiled pattern ends if its limits are generous enough, and then its answer is the first
end of the pattern that is accepted.

* `Pattern.run_eq_find?_ends`, `Pattern.exists_run_eq_find?_ends`: runs that begin at a position.
* `Pattern.exists_eq_find?_visits`: runs of patterns that need not be proper.
* `Pattern.runAt_eq_head?_ends`: the answer of a run that accepts every match.
* `Pattern.runAt_terminates`: no pattern makes a run go on for ever.
-/

namespace GraphemeRegex

namespace Pattern

variable {t : Pattern} {level : MatchLevel} {m : Machine} {p : Program} {subject : Text}
  {limits : Limits} {r : Option Position}

/-- The answer of a run is the first end that is accepted. -/
theorem run_eq_find?_ends {start : Position} (proper : t.isProper = true)
    (compiled : t.compile level = .ok m.program) (few : m.program.FewRegisters)
    (ran : m.run limits start = .ok r) :
    r = (t.ends level m.subject start).find? m.acceptsAt := by
  rcases compiled_of_compile compiled with ⟨stop, code⟩
  exact (Machine.evaluates_of_run ran).unique (evaluates code proper few start)

/-- A run with enough fuel and room for enough checkpoints has an answer. -/
theorem exists_run_eq_find?_ends (proper : t.isProper = true)
    (compiled : t.compile level = .ok m.program) (few : m.program.FewRegisters)
    (start : Position) :
    ∃ n, ∀ limits : Limits, n ≤ limits.fuel → n ≤ limits.checkpoints →
      m.run limits start = .ok ((t.ends level m.subject start).find? m.acceptsAt) := by
  rcases compiled_of_compile compiled with ⟨stop, code⟩
  exact Machine.exists_run_of_evaluates (evaluates code proper few start)

/-- A run that halts has the first visited end that is accepted as its answer, if as many steps are
counted as it makes. -/
theorem exists_eq_find?_visits {start : Nat} {acceptAtEnd : Bool}
    (compiled : t.compile level = .ok p) (few : p.FewRegisters)
    (ran : (⟨p, subject, acceptAtEnd⟩ : Machine).runAt limits start = .ok r) :
    ∃ (q : Position) (n : Nat), subject.positionAt? start = some q ∧ ∀ steps, n ≤ steps →
      r = (t.visits (some steps) level subject q).find?
        (Machine.acceptsAt ⟨p, subject, acceptAtEnd⟩) := by
  unfold Machine.runAt at ran
  split at ran
  · rename_i q found
    rcases compiled_of_compile compiled with ⟨stop, code⟩
    have evaluates := Machine.evaluates_of_run ran
    obtain ⟨n, halts⟩ := evaluates.exists_haltsIn
    exact ⟨q, n, found, fun steps enough => eq_find?_visits code few evaluates (halts.mono enough)⟩
  · cases ran

/-- The answer of a run that accepts every match is the first end of the pattern. -/
theorem runAt_eq_head?_ends {start : Nat} (proper : t.isProper = true)
    (compiled : t.compile level = .ok p) (few : p.FewRegisters)
    (ran : (⟨p, subject, false⟩ : Machine).runAt limits start = .ok r) :
    ∃ q, subject.positionAt? start = some q ∧ r = (t.ends level subject q).head? := by
  unfold Machine.runAt at ran
  split at ran
  · rename_i q found
    refine ⟨q, found, ?_⟩
    have first := run_eq_find?_ends proper compiled few ran
    -- every end is accepted
    have all : Machine.acceptsAt ⟨p, subject, false⟩ = fun _ => true := rfl
    rw [first, all]
    cases t.ends level subject q <;> rfl
  · cases ran

/-- In `a*a`, the loop gives one scalar back. -/
theorem head?_ends_of_giving_back :
    ∃ q, Text.positionAt? ['a', 'a'] 0 = some q ∧
      some ⟨2, []⟩ = ((concatenation [.repetition .zeroOrMore .eager (.atom (.char ['a'])),
        .atom (.char ['a'])]).ends .scalar ['a', 'a'] q).head? := by
  let code : Array (Instruction Nat) := #[.branch 2, .matchText ['a'] .scalar, .split 1 3,
    .matchText ['a'] .scalar, .accept]
  have ran : Machine.runAt ⟨⟨code, .empty, #[], 0⟩, ['a', 'a'], false⟩ .standard 0 =
      .ok (some ⟨2, []⟩) := by decide +kernel
  exact runAt_eq_head?_ends (by decide) (by decide +kernel) ⟨by decide, by decide⟩ ran

/-- No pattern makes a run go on for ever: with enough fuel and room for enough checkpoints, it has
an answer, whether or not it accepts at the end of the subject only. -/
theorem runAt_terminates {start : Nat} {q : Position} (proper : t.isProper = true)
    (compiled : t.compile level = .ok p) (few : p.FewRegisters)
    (found : subject.positionAt? start = some q) (acceptAtEnd : Bool) :
    ∃ (n : Nat) (r : Option Position), ∀ limits : Limits, n ≤ limits.fuel →
      n ≤ limits.checkpoints →
      (⟨p, subject, acceptAtEnd⟩ : Machine).runAt limits start = .ok r := by
  obtain ⟨n, runs⟩ :=
    exists_run_eq_find?_ends (m := ⟨p, subject, acceptAtEnd⟩) proper compiled few q
  refine ⟨n, (t.ends level subject q).find? (Machine.acceptsAt ⟨p, subject, acceptAtEnd⟩), ?_⟩
  intro limits enough room
  rw [Machine.runAt, found]
  exact runs limits enough room

/-- The loop `(a*?)+` ends, although its body may be empty. -/
theorem empty_passes_terminate :
    ∃ (n : Nat) (r : Option Position), ∀ limits : Limits, n ≤ limits.fuel →
      n ≤ limits.checkpoints →
      (⟨⟨#[.unmark ⟨0⟩, .mark ⟨0⟩, .branch 4, .matchText ['a'] .scalar, .save 3,
        .checkProgress 7 ⟨0⟩, .split 1 7, .accept], .empty, #[], 1⟩, ['a', 'b'], true⟩ :
          Machine).runAt limits 0 = .ok r := by
  have compiled : (repetition .oneOrMore .eager (.repetition .zeroOrMore .reluctant
      (.atom (.char ['a'])))).compile .scalar = .ok ⟨#[.unmark ⟨0⟩, .mark ⟨0⟩, .branch 4,
        .matchText ['a'] .scalar, .save 3, .checkProgress 7 ⟨0⟩, .split 1 7, .accept], .empty,
        #[], 1⟩ := by decide +kernel
  have found : Text.positionAt? ['a', 'b'] 0 = some ⟨0, ['a', 'b']⟩ := by decide +kernel
  exact runAt_terminates (by decide) compiled ⟨by decide, by decide⟩ found true

end Pattern

end GraphemeRegex
