import GraphemeRegex.Proofs.Machine.Fitting
import GraphemeRegex.Regex

/-! # Acceptance — matches that are accepted at the end only

A machine that accepts at the end of its subject only does what the plain machine does, up to the
first match that ends elsewhere. There the plain machine halts, and the other one looks on.

* `Machine.step_acceptAtEnd`: one step of the two machines.
* `Machine.runFrom_acceptAtEnd`: their runs from one state.
* `Machine.runAt_acceptAtEnd`: what the answer of one run says about the other, and what matching a
  whole subject says about finding a match in it.
-/

namespace GraphemeRegex

namespace Machine

variable {m : Machine} {p : Program} {subject : Text} {limits : Limits} {s : State} {q : Position}

/-- A step of the two machines is the same, unless the plain one accepts a match that does not end
where the subject ends. -/
theorem step_acceptAtEnd (p : Program) (subject : Text) (s : State) :
    (⟨p, subject, true⟩ : Machine).step s = (⟨p, subject, false⟩ : Machine).step s ∨
      (⟨p, subject, false⟩ : Machine).step s = .halt (some s.pos) ∧
        s.pos.offset ≠ subject.byteLength := by
  unfold step
  cases p.code[s.ip]? with
  | none => exact .inl rfl
  | some i =>
    cases i with
    -- the only instruction that asks where the subject ends
    | accept =>
      by_cases ends : s.pos.offset = subject.byteLength
      · have accepts : acceptsAt ⟨p, subject, true⟩ s.pos = true := by simp [acceptsAt, ends]
        left
        simp only [execute, accepts]
        rfl
      · exact .inr ⟨rfl, ends⟩
    | _ => exact .inl rfl

/-- A run of the two machines has the same outcome, unless the plain one finds a match that does not
end where the subject ends. -/
theorem runFrom_acceptAtEnd (p : Program) (subject : Text) (limits : Limits) (fuel : Nat)
    (s : State) :
    (⟨p, subject, true⟩ : Machine).runFrom limits fuel s =
        (⟨p, subject, false⟩ : Machine).runFrom limits fuel s ∨
      ∃ q, (⟨p, subject, false⟩ : Machine).runFrom limits fuel s = .ok (some q) ∧
        q.offset ≠ subject.byteLength := by
  induction fuel generalizing s with
  | zero => exact .inl rfl
  | succ fuel ih =>
    -- which instruction comes next, and so whether it overflows, is the same for both
    have overflow : (⟨p, subject, true⟩ : Machine).overflows limits s =
        (⟨p, subject, false⟩ : Machine).overflows limits s := rfl
    rw [runFrom, runFrom, overflow]
    split
    · exact .inl rfl
    · rcases step_acceptAtEnd p subject s with same | ⟨halts, elsewhere⟩
      · rw [same]
        cases (⟨p, subject, false⟩ : Machine).step s with
        | next t => exact ih t
        | halt r => exact .inl rfl
        | fault f => exact .inl rfl
      · rw [halts]
        exact .inr ⟨s.pos, rfl, elsewhere⟩

/-- The same of runs that begin at an offset. -/
theorem runAt_eq_or_exists (p : Program) (subject : Text) (limits : Limits) (start : Nat) :
    (⟨p, subject, true⟩ : Machine).runAt limits start =
        (⟨p, subject, false⟩ : Machine).runAt limits start ∨
      ∃ q, (⟨p, subject, false⟩ : Machine).runAt limits start = .ok (some q) ∧
        q.offset ≠ subject.byteLength := by
  unfold runAt
  cases subject.positionAt? start with
  | none => exact .inl rfl
  | some here => exact runFrom_acceptAtEnd p subject limits limits.fuel _

/-- A step halts only at a position that is accepted. -/
theorem acceptsAt_of_halt (halts : m.step s = .halt (some q)) : m.acceptsAt q = true := by
  rcases halt_of_step halts with ⟨none, _⟩ | ⟨code, here⟩
  · cases none
  · cases here
    unfold step at halts
    rw [code] at halts
    by_contra refused
    simp only [execute, if_neg refused] at halts
    cases (halt_of_backtrack halts).1

/-- All matches that are accepted at the end only end at the same position, where nothing is left of
the subject. -/
theorem eq_end_of_runAt {start : Nat}
    (ran : (⟨p, subject, true⟩ : Machine).runAt limits start = .ok (some q)) :
    q = ⟨subject.byteLength, []⟩ := by
  unfold runAt at ran
  split at ran
  · rename_i begin found
    obtain ⟨t, visits, halts⟩ := (exists_end_of_runFrom .refl).1 _ ran
    have ends : q.offset = subject.byteLength := by simpa [acceptsAt] using acceptsAt_of_halt halts
    rcases halt_of_step halts with ⟨none, _⟩ | ⟨_, here⟩
    · cases none
    · cases here
      have reached : subject.start.Reaches t.pos :=
        (Text.positionAt?_eq_some_iff.1 found).1.trans (State.fits_of_visits visits).now.pos
      -- a position of the subject with the offset of its end has nothing behind it
      have done : t.pos.rest = [] := (Text.offset_eq_byteLength_iff reached).1 ends
      rw [← ends, ← done]
  · cases ran

end Machine

/-! ## Regexes -/

theorem exists_of_map_eq_ok {ε α β : Type} {x : Except ε α} {f : α → β} {b : β}
    (h : x.map f = .ok b) : ∃ a, x = .ok a ∧ f a = b := by
  cases x with
  | error e => cases h
  | ok a => exact ⟨a, rfl, Except.ok.inj h⟩

namespace Regex

variable {r : Regex} {subject : Text} {stop : Position}

/-- A search tries the start of the subject first. -/
theorem find?_of_runAt_start (ran : r.runAt subject subject.start = .ok (some stop)) :
    r.find? subject = .ok (some (subject.start, stop)) := by
  have first : ∃ later, r.startPositions subject = subject.start :: later := by
    rw [startPositions, MatchLevel.startPositions]
    cases r.level.units subject <;> exact ⟨_, rfl⟩
  obtain ⟨later, starts⟩ := first
  rw [find?, starts, findFrom, ran]

/-- To match a whole subject is to run from its start and to accept at its end. -/
theorem exists_run_of_matchesWhole (whole : r.matchesWhole subject = .ok true) :
    ∃ stop, (r.machine subject true).run r.limits subject.start = .ok (some stop) := by
  obtain ⟨found, ran, some⟩ := exists_of_map_eq_ok whole
  obtain ⟨stop, rfl⟩ := Option.isSome_iff_exists.1 some
  exact ⟨stop, ran⟩

/-- A regex that matches a whole subject matches at its start. -/
theorem exists_runAt_of_matchesWhole (whole : r.matchesWhole subject = .ok true) :
    ∃ stop, r.runAt subject subject.start = .ok (some stop) := by
  obtain ⟨stop, ran⟩ := exists_run_of_matchesWhole whole
  rcases Machine.runFrom_acceptAtEnd r.program subject r.limits r.limits.fuel
    (.initial r.program subject.start) with same | ⟨stop', plain, _⟩
  · exact ⟨stop, same.symm.trans ran⟩
  · exact ⟨stop', plain⟩

end Regex

/-! ## Outcomes -/

namespace Machine

/-- Accepting at the end only filters what is accepted. A plain run without a match or with an error
has the same outcome if matches are accepted at the end only, and so has one that finds a match
where the subject ends. A match that is accepted at the end only ends there, and the plain run finds
one, too. So a regex that matches a whole subject matches at its start, where a search begins. -/
theorem runAt_acceptAtEnd (p : Program) (subject : Text) (limits : Limits) (start : Nat) :
    (∀ e, (⟨p, subject, false⟩ : Machine).runAt limits start = .error e →
      (⟨p, subject, true⟩ : Machine).runAt limits start = .error e) ∧
    ((⟨p, subject, false⟩ : Machine).runAt limits start = .ok none →
      (⟨p, subject, true⟩ : Machine).runAt limits start = .ok none) ∧
    (∀ q, (⟨p, subject, false⟩ : Machine).runAt limits start = .ok (some q) →
      q.offset = subject.byteLength →
        (⟨p, subject, true⟩ : Machine).runAt limits start = .ok (some q)) ∧
    (∀ q, (⟨p, subject, true⟩ : Machine).runAt limits start = .ok (some q) →
      q.offset = subject.byteLength ∧
        ∃ q', (⟨p, subject, false⟩ : Machine).runAt limits start = .ok (some q')) ∧
    ∀ r : Regex, r.matchesWhole subject = .ok true →
      ∃ stop, r.matchAt subject 0 = .ok (some stop) ∧
        r.find? subject = .ok (some (subject.start, stop)) ∧ r.isMatch subject = .ok true := by
  -- the two runs agree, or the plain one finds a match that ends too early
  have outcomes := runAt_eq_or_exists p subject limits start
  refine ⟨?_, ?_, ?_, ?_, ?_⟩
  · intro e ran
    rcases outcomes with same | ⟨q, found, _⟩
    · exact same.trans ran
    · cases ran.symm.trans found
  · intro ran
    rcases outcomes with same | ⟨q, found, _⟩
    · exact same.trans ran
    · cases ran.symm.trans found
  · intro q ran ends
    rcases outcomes with same | ⟨q', found, elsewhere⟩
    · exact same.trans ran
    · cases ran.symm.trans found
      exact absurd ends elsewhere
  · intro q ran
    refine ⟨congrArg Position.offset (eq_end_of_runAt ran), ?_⟩
    rcases outcomes with same | ⟨q', found, _⟩
    · exact ⟨q, same.symm.trans ran⟩
    · exact ⟨q', found⟩
  · intro r whole
    obtain ⟨stop, ran⟩ := Regex.exists_runAt_of_matchesWhole whole
    have search := Regex.find?_of_runAt_start ran
    have begin : subject.positionAt? 0 = some subject.start :=
      Text.positionAt?_eq_some_iff.2 ⟨.refl _, rfl⟩
    refine ⟨stop, ?_, search, ?_⟩
    · rw [Regex.matchAt, begin]
      exact ran
    · rw [Regex.isMatch, search]
      rfl

/-- The first branch of `a|ab` ends in the middle of `ab`, where it is accepted by the plain run
only. In `b` neither branch matches, and three instructions are too few for either run. -/
theorem runAt_acceptAtEnd_of_short_branch :
    let p : Program := ⟨#[.save 3, .matchText ['a'] .scalar, .branch 5, .matchText ['a'] .scalar,
      .matchText ['b'] .scalar, .accept], .empty, #[], 0⟩
    let r : Regex := ⟨['a', '|', 'a', 'b'], p, .scalar, .standard⟩
    (∃ q, (⟨p, ['a', 'b'], false⟩ : Machine).runAt .standard 0 = .ok (some q)) ∧
      (⟨p, ['b'], true⟩ : Machine).runAt .standard 0 = .ok none ∧
      (⟨p, ['a', 'b'], true⟩ : Machine).runAt ⟨3, 1⟩ 0 = .error (.fuelExhausted 3) ∧
      r.isMatch ['a', 'b'] = .ok true := by
  intro p r
  have late : (⟨p, ['a', 'b'], true⟩ : Machine).runAt .standard 0 = .ok (some ⟨2, []⟩) := by
    decide +kernel
  have missed : (⟨p, ['b'], false⟩ : Machine).runAt .standard 0 = .ok none := by decide +kernel
  have stopped : (⟨p, ['a', 'b'], false⟩ : Machine).runAt ⟨3, 1⟩ 0 =
      .error (.fuelExhausted 3) := by decide +kernel
  have whole : r.matchesWhole ['a', 'b'] = .ok true := by decide +kernel
  obtain ⟨_, _, _, ends, regexes⟩ := runAt_acceptAtEnd p ['a', 'b'] .standard 0
  obtain ⟨_, _, _, found⟩ := regexes r whole
  exact ⟨(ends _ late).2, (runAt_acceptAtEnd p ['b'] .standard 0).2.1 missed,
    (runAt_acceptAtEnd p ['a', 'b'] ⟨3, 1⟩ 0).1 _ stopped, found⟩

end Machine

end GraphemeRegex
