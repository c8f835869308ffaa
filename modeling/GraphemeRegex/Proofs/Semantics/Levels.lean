import GraphemeRegex.Proofs.Lowering.Scalarwise
import GraphemeRegex.Proofs.Machine.Fitting
import GraphemeRegex.Proofs.Text.Flatness
import GraphemeRegex.Regex

/-! # Levels — on flat texts it makes no difference how a pattern is matched

On a subject whose clusters are single scalars, an instruction for clusters does the same as its
counterpart for scalars. So the two programs of a pattern go through the same states, one
instruction at a time, and no limit can tell them apart.

* `Instruction.consumes?_scalarwise`: counterparts take the same from a flat subject.
* `Machine.step_scalarwise`: they make the same step.
* `Machine.runFrom_scalarwise`, `Machine.runAt_scalarwise`: counterparts of programs have the same
  runs.
* `Pattern.levels_agree`: the two programs and the two regexes of a pattern.
-/

namespace GraphemeRegex

/-! ## Consuming -/

section Consuming

variable {subject : Text} {p : Position}

/-- The next cluster of a flat text is its next scalar, so a scalar is matched alike. -/
theorem Position.matchText?_of_flat (flat : subject.Flat) (inside : subject.start.Reaches p)
    (c : Char) (level : MatchLevel) : p.matchText? [c] level = p.matchText? [c] .scalar := by
  cases level with
  | scalar => rfl
  | grapheme =>
    -- both filter the next scalar, each in its own way
    rw [matchText?, matchText?, flat.nextCluster?_eq inside]
    apply Option.ext
    rintro ⟨text, q⟩
    rw [Option.filter_eq_some_iff, Option.map_eq_some_iff, Option.map_eq_some_iff]
    constructor
    · rintro ⟨⟨⟨d, q'⟩, scalar, pair⟩, same⟩
      cases pair
      obtain rfl : d = c := by simpa using same
      exact ⟨q, nextScalar?_eq_some_iff.1 scalar, rfl⟩
    · rintro ⟨q', found, pair⟩
      cases pair
      exact ⟨⟨(c, q), nextScalar?_eq_some_iff.2 found, rfl⟩, by simp⟩

/-- In a flat text every position is a boundary, where a string may end. -/
theorem Position.matchString?_of_flat (flat : subject.Flat) (inside : subject.start.Reaches p)
    (text : Text) (level : MatchLevel) :
    p.matchString? subject text level = p.matchString? subject text .scalar := by
  cases level with
  | scalar => rfl
  | grapheme =>
    rw [matchString?, matchString?]
    cases found : p.after? text with
    | none => rfl
    | some q =>
      -- all positions of a flat subject are boundaries
      have reached : subject.start.Reaches q := inside.trans ⟨text, found⟩
      have boundary : subject.isBoundary q.offset = true := by
        rw [Text.isBoundary, List.contains_iff_mem]
        exact (Text.between_iff reached).1 (flat.between reached)
      rw [Option.bind_some, if_pos boundary]
      rfl

/-- A class is tested on the same scalar. -/
theorem Position.consume?_of_flat (flat : subject.Flat) (inside : subject.start.Reaches p)
    (cls : CharClass) (level : MatchLevel) : p.consume? cls level = p.consume? cls .scalar := by
  cases level with
  | scalar => rfl
  | grapheme =>
    rw [consume?, consume?, if_pos (by rfl)]
    split
    · rfl
    · rw [flat.nextCluster?_eq inside]
      cases p.nextScalar? with
      | none => rfl
      | some pair =>
        rw [Option.map_some, Option.filter_some, Option.filter_some]
        -- one filters the cluster, the other one the scalar that it is made of
        show (if cls.accepts pair.1 = true then _ else _) = Option.map _ (if _ then _ else _)
        split <;> rfl

end Consuming

/-- The machine with the counterpart of its program. -/
def Machine.scalarwise (m : Machine) : Machine :=
  { m with program := m.program.scalarwise }

variable {m : Machine} {s : State} {p : Position}

/-- From a position of a flat subject, the counterpart of an instruction takes the same. -/
theorem Instruction.consumes?_scalarwise (flat : m.subject.Flat)
    (inside : m.subject.start.Reaches p) (i : Instruction Nat) :
    i.scalarwise.consumes? m.scalarwise p = i.consumes? m p := by
  cases i with
  | advance count =>
    rw [scalarwise]
    split
    · rename_i one
      subst one
      -- one cluster, or any one scalar
      show p.consume? .anyScalar .scalar = Position.nextClusters? [] 1 p
      rw [Position.consume?_anyScalar, Position.nextClusters?_one, flat.nextCluster?_eq inside]
      rfl
    · rfl
  | matchText text level =>
    rw [scalarwise]
    split
    · rename_i single
      obtain ⟨c, rfl⟩ := List.length_eq_one_iff.1 single
      exact (Position.matchText?_of_flat flat inside c level).symm
    · rfl
  | matchString string level =>
    show (m.program.strings.get? string).bind (p.matchString? m.subject · .scalar) =
      (m.program.strings.get? string).bind (p.matchString? m.subject · level)
    cases m.program.strings.get? string with
    | none => rfl
    | some text => exact (Position.matchString?_of_flat flat inside text level).symm
  | consume cls level => exact (Position.consume?_of_flat flat inside cls level).symm
  | _ => rfl

namespace Machine

/-! ## Runs -/

/-- The counterpart of a program has the counterpart of each instruction. -/
theorem code_scalarwise (ip : Nat) :
    m.scalarwise.program.code[ip]? = m.program.code[ip]?.map (·.scalarwise) := by
  simp [scalarwise, Program.scalarwise]

/-- In a state on a flat subject, the counterpart of a program makes the same step. -/
theorem step_scalarwise (flat : m.subject.Flat) (inside : m.subject.start.Reaches s.pos) :
    m.scalarwise.step s = m.step s := by
  -- counterparts take the same, and do the same with it
  have executes (i : Instruction Nat) : m.scalarwise.execute s i.scalarwise = m.execute s i := by
    have takes := Instruction.consumes?_scalarwise flat inside i
    cases i with
    | advance count =>
      show _ = s.afterConsuming _
      rw [← takes, Instruction.scalarwise]
      split <;> rfl
    | matchText text level | consume cls level =>
      exact congrArg s.afterConsuming takes
    | matchString string level =>
      show (if string.index < m.program.strings.size then s.afterConsuming _ else _) = _
      rw [execute, ← takes]
      rfl
    | _ => rfl
  have size : m.scalarwise.program.size = m.program.size := by
    simp [scalarwise, Program.scalarwise, Program.size]
  rw [step, step, code_scalarwise, size]
  cases m.program.code[s.ip]? with
  | none => rfl
  | some i => exact executes i

/-- Limits do not depend on instructions. -/
theorem overflows_scalarwise (limits : Limits) :
    m.scalarwise.overflows limits s = m.overflows limits s := by
  have pushes : m.scalarwise.pushesNext s = m.pushesNext s := by
    rw [pushesNext, pushesNext, code_scalarwise]
    cases m.program.code[s.ip]? with
    | none => rfl
    | some i => exact i.pushes_scalarwise
  rw [overflows, overflows, pushes]

/-- From a state whose positions are all of a flat subject, the counterpart of a program has the
same run within the same limits. -/
theorem runFrom_scalarwise (flat : m.subject.Flat) (limits : Limits) (fuel : Nat)
    (fits : s.Fits m m.subject.start.Reaches) :
    m.scalarwise.runFrom limits fuel s = m.runFrom limits fuel s := by
  -- induction on the fuel; the states of both runs are the same, and their positions fit
  induction fuel generalizing s with
  | zero => rfl
  | succ fuel ih =>
    rw [runFrom, runFrom, overflows_scalarwise, step_scalarwise flat fits.now.pos]
    split
    · rfl
    · cases next : m.step s with
      | next t => exact ih (fits.onward next)
      | halt r => rfl
      | fault f => rfl

/-- A run that begins in the subject stays in it. -/
theorem run_scalarwise (flat : m.subject.Flat) (limits : Limits) {start : Position}
    (inside : m.subject.start.Reaches start) :
    m.scalarwise.run limits start = m.run limits start :=
  runFrom_scalarwise flat limits limits.fuel (.initial inside)

/-- An offset is one of the subject or none. -/
theorem runAt_scalarwise (flat : m.subject.Flat) (limits : Limits) (start : Nat) :
    m.scalarwise.runAt limits start = m.runAt limits start := by
  have same : m.scalarwise.subject = m.subject := rfl
  rw [runAt, runAt, same]
  cases found : m.subject.positionAt? start with
  | none => rfl
  | some p => exact run_scalarwise flat limits (Text.positionAt?_eq_some_iff.1 found).1

end Machine

/-! ## Patterns and regexes -/

/-- Searching only looks at the runs from the given positions. -/
theorem Regex.findFrom_congr {r r' : Regex} {subject : Text} {starts : List Position}
    (same : ∀ p ∈ starts, r'.runAt subject p = r.runAt subject p) :
    r'.findFrom subject starts = r.findFrom subject starts := by
  induction starts with
  | nil => rfl
  | cons start later ih =>
    rw [findFrom, findFrom, same start List.mem_cons_self,
      ih fun p mem => same p (List.mem_cons_of_mem start mem)]

/-- On a flat subject a pattern whose characters are single scalars is matched alike at both levels.
It is compiled at both or at neither, for the same reason; the two programs have the same size,
registers and texts, and from each start and within all limits the same answer; so both regexes find
the same. -/
theorem Pattern.levels_agree (t : Pattern) (single : t.hasSingleChars = true) {subject : Text}
    (flat : subject.Flat) :
    (∃ e, t.compile .grapheme = .error e ∧ t.compile .scalar = .error e) ∨
      ∃ p p' : Program, t.compile .grapheme = .ok p ∧ t.compile .scalar = .ok p' ∧
        (p'.size = p.size ∧ p'.counters = p.counters ∧ p'.marks = p.marks ∧
          p'.strings = p.strings) ∧
        (∀ (acceptAtEnd : Bool) (limits : Limits) (start : Nat),
          Machine.runAt ⟨p', subject, acceptAtEnd⟩ limits start =
            Machine.runAt ⟨p, subject, acceptAtEnd⟩ limits start) ∧
        ∀ (source : Text) (limits : Limits),
          let r : Regex := ⟨source, p, .grapheme, limits⟩
          let r' : Regex := ⟨source, p', .scalar, limits⟩
          r'.find? subject = r.find? subject ∧ r'.isMatch subject = r.isMatch subject ∧
            r'.matchesWhole subject = r.matchesWhole subject := by
  have counterpart := t.compile_scalar single
  cases compiled : t.compile .grapheme with
  | error e =>
    rw [compiled] at counterpart
    exact .inl ⟨e, rfl, counterpart⟩
  | ok p =>
    rw [compiled] at counterpart
    refine .inr ⟨p, p.scalarwise, rfl, counterpart, ⟨?_, rfl, rfl, rfl⟩, ?_, ?_⟩
    · simp [Program.scalarwise, Program.size]
    · intro acceptAtEnd limits start
      exact Machine.runAt_scalarwise (m := ⟨p, subject, acceptAtEnd⟩) flat limits start
    · intro source limits r r'
      have runs (acceptAtEnd : Bool) (start : Position) (inside : subject.start.Reaches start) :
          (r'.machine subject acceptAtEnd).run limits start =
            (r.machine subject acceptAtEnd).run limits start :=
        Machine.run_scalarwise (m := ⟨p, subject, acceptAtEnd⟩) flat limits inside
      -- both searches try the same positions
      have starts : r'.startPositions subject = r.startPositions subject := by
        show subject.start.along (subject.map ([·])) = subject.start.along subject.clusters
        rw [flat.clusters_eq]
      have found : r'.find? subject = r.find? subject := by
        rw [Regex.find?, Regex.find?, starts]
        refine Regex.findFrom_congr ?_
        intro start mem
        exact runs false start (Text.Between.reaches mem)
      refine ⟨found, ?_, ?_⟩
      · rw [Regex.isMatch, Regex.isMatch, found]
      · rw [Regex.matchesWhole, Regex.matchesWhole, runs true subject.start (.refl _)]

/-- The pattern `.*a` on `ba`: its two programs differ in three of their instructions, and both find
the whole text. -/
theorem Pattern.levels_agree_on_ascii :
    let t : Pattern := .concatenation [.repetition .zeroOrMore .eager (.atom .any),
      .atom (.char ['a'])]
    let p : Program := ⟨#[.branch 2, .advance 1, .split 1 3, .matchText ['a'] .grapheme, .accept],
      .empty, #[], 0⟩
    let p' : Program := ⟨#[.branch 2, .consume .anyScalar .scalar, .split 1 3,
      .matchText ['a'] .scalar, .accept], .empty, #[], 0⟩
    let subject : Text := ['b', 'a']
    t.hasSingleChars = true ∧ subject.Flat ∧ t.compile .grapheme = .ok p ∧
      t.compile .scalar = .ok p' ∧
      Regex.find? ⟨[], p', .scalar, .standard⟩ subject =
        Regex.find? ⟨[], p, .grapheme, .standard⟩ subject := by
  intro t p p' subject
  have single : t.hasSingleChars = true := rfl
  have flat : subject.Flat := Text.flat_of_ascii (by simp [subject]) (by decide)
  have grapheme : t.compile .grapheme = .ok p := by decide +kernel
  have scalar : t.compile .scalar = .ok p' := by decide +kernel
  refine ⟨single, flat, grapheme, scalar, ?_⟩
  rcases levels_agree t single flat with ⟨e, stops, _⟩ | ⟨q, q', made, made', _, _, regexes⟩
  · rw [grapheme] at stops
    cases stops
  · obtain rfl : p = q := Except.ok.inj (grapheme.symm.trans made)
    obtain rfl : p' = q' := Except.ok.inj (scalar.symm.trans made')
    exact (regexes [] .standard).1

end GraphemeRegex
