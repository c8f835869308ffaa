import GraphemeRegex.Proofs.Lowering.Supported
import GraphemeRegex.Proofs.Machine.Straight
import GraphemeRegex.Proofs.Reading.Literal
import GraphemeRegex.Proofs.Text.Boundaries
import GraphemeRegex.Regex

/-! # Literal matching — a literal matches itself and nothing else

The program of a literal compares its clusters with what comes next in the subject, one instruction
for each, and accepts where the subject ends. Nothing in it can be tried in two ways, so that a run
needs no checkpoint and one step more than there are clusters.

* `Position.afterTexts?`: the position behind texts that come one after the other.
* `Position.afterTexts?_scalar`, `Position.afterTexts?_grapheme`: when they do so at each level.
* `Position.exists_afterTexts?_iff`: when the clusters of a text are all that is left.
* `Machine.runFrom_texts`: the run of a program that compares texts.
* `Regex.matchesWhole_literal`: a literal matches a whole subject if and only if they are the same.
-/

namespace GraphemeRegex

/-! ## Texts one after the other -/

namespace Position

variable {level : MatchLevel} {p q : Position} {texts : List Text}

/-- The position behind texts, if they come one after the other. -/
def afterTexts? (level : MatchLevel) : Position → List Text → Option Position
  | p, [] => some p
  | p, text :: texts => (p.matchText? text level).bind fun found => found.2.afterTexts? level texts

theorem afterTexts?_cons_eq_some_iff {text : Text} :
    p.afterTexts? level (text :: texts) = some q ↔
      ∃ found, p.matchText? text level = some found ∧ found.2.afterTexts? level texts = some q :=
  Option.bind_eq_some_iff

/-- What comes one after the other lies in between. -/
theorem after?_of_afterTexts? (h : p.afterTexts? level texts = some q) :
    p.after? texts.flatten = some q := by
  induction texts generalizing p with
  | nil =>
    cases h
    exact after?_nil _
  | cons text texts ih =>
    obtain ⟨found, first, later⟩ := afterTexts?_cons_eq_some_iff.1 h
    obtain ⟨reached, same⟩ := after?_of_matchText? first
    rw [List.flatten_cons, ← same]
    exact after?_trans reached (ih later)

theorem reaches_of_afterTexts? (h : p.afterTexts? level texts = some q) : p.Reaches q :=
  ⟨_, after?_of_afterTexts? h⟩

/-- Scalar by scalar, it does not matter how the texts are cut. -/
theorem afterTexts?_scalar : p.afterTexts? .scalar texts = p.after? texts.flatten := by
  induction texts generalizing p with
  | nil => exact (after?_nil p).symm
  | cons text texts ih =>
    ext r
    rw [afterTexts?_cons_eq_some_iff, List.flatten_cons, after?_append]
    constructor
    · rintro ⟨found, first, later⟩
      obtain ⟨q, here, rfl⟩ := Option.map_eq_some_iff.1 first
      exact ⟨q, here, ih.symm.trans later⟩
    · rintro ⟨q, here, later⟩
      exact ⟨(text, q), Option.map_eq_some_iff.2 ⟨q, here, rfl⟩, ih.trans later⟩

/-- Cluster by cluster, the texts must be the clusters of what is left up to where they end. -/
theorem afterTexts?_grapheme :
    p.afterTexts? .grapheme texts = some q ↔
      p.after? texts.flatten = some q ∧ p.rest.clusters = texts ++ q.rest.clusters := by
  constructor
  · intro matched
    refine ⟨after?_of_afterTexts? matched, ?_⟩
    induction texts generalizing p with
    | nil =>
      cases matched
      rfl
    | cons text texts ih =>
      obtain ⟨⟨cluster, r⟩, first, later⟩ := afterTexts?_cons_eq_some_iff.1 matched
      obtain ⟨next, same⟩ := Option.filter_eq_some_iff.1 first
      obtain rfl : cluster = text := of_decide_eq_true same
      rw [clusters_of_nextCluster? next, ih later, List.cons_append]
  · rintro ⟨reached, cut⟩
    induction texts generalizing p with
    | nil =>
      rw [List.flatten_nil, after?_nil] at reached
      exact reached
    | cons text texts ih =>
      cases left : p.rest with
      | nil =>
        rw [left] at cut
        cases cut
      | cons c rest =>
        obtain ⟨r, next, -, -⟩ := along_clusters_of_cons left
        -- the first of the clusters that are left is the first of the texts
        rw [clusters_of_nextCluster? next, List.cons_append, List.cons.injEq] at cut
        rw [cut.1] at next
        obtain ⟨here, -⟩ := after?_of_nextCluster? next
        rw [List.flatten_cons, after?_append] at reached
        obtain ⟨r', here', later⟩ := reached
        obtain rfl : r' = r := Option.some.inj (here'.symm.trans here)
        refine afterTexts?_cons_eq_some_iff.2 ⟨(text, r'), ?_, ih later cut.2⟩
        exact Option.filter_eq_some_iff.2 ⟨next, decide_eq_true rfl⟩

/-- A text comes next and is all that is left. -/
theorem exists_after?_iff {text : Text} :
    (∃ q, p.after? text = some q ∧ q.rest = []) ↔ p.rest = text := by
  constructor
  · rintro ⟨q, reached, done⟩
    rw [(after?_eq_some_iff.1 reached).1, done, List.append_nil]
  · intro same
    exact ⟨⟨_, []⟩, after?_eq_some_iff.2 ⟨by rw [same, List.append_nil], rfl⟩, rfl⟩

/-- The clusters of a text are all that is left if the text is what is left. -/
theorem exists_afterTexts?_iff (level : MatchLevel) {text : Text} :
    (∃ q, p.afterTexts? level text.clusters = some q ∧ q.rest = []) ↔ p.rest = text := by
  rw [← exists_after?_iff]
  refine exists_congr fun q => and_congr_left fun done => ?_
  cases level with
  | scalar => rw [afterTexts?_scalar, Text.clusters_flatten]
  | grapheme =>
    rw [afterTexts?_grapheme, Text.clusters_flatten, and_iff_left_iff_imp]
    intro reached
    rw [(after?_eq_some_iff.1 reached).1, done, List.append_nil]
    exact (List.append_nil _).symm

end Position

/-! ## Programs -/

/-- The code of a literal: each text is compared in its turn. -/
def comparisons (level : MatchLevel) (texts : List Text) : List (Instruction Nat) :=
  texts.map (.matchText · level)

namespace Machine

variable {m : Machine} {level : MatchLevel} {texts : List Text}

theorem takes_of_mem_comparisons {i : Instruction Nat} (mem : i ∈ comparisons level texts) :
    m.Takes i := by
  obtain ⟨text, -, rfl⟩ := List.mem_map.1 mem
  exact takes_matchText text level

/-- Comparisons end behind the texts they compare. -/
theorem behind?_comparisons {p : Position} :
    m.behind? (comparisons level texts) p = p.afterTexts? level texts := by
  induction texts generalizing p with
  | nil => rfl
  | cons text texts ih =>
    rw [Position.afterTexts?, ← funext fun found : Text × Position => ih (p := found.2)]
    rfl

/-- A program that compares texts and then accepts needs one step for each text and one more. -/
theorem runFrom_texts (limits : Limits) {fuel : Nat} {s : State} (enough : texts.length < fuel)
    (code : m.program.CodeAt s.ip (comparisons level texts ++ [.accept]))
    (bottom : s.stack = .empty) :
    m.runFrom limits fuel s = .ok ((s.pos.afterTexts? level texts).filter m.acceptsAt) := by
  have short : (comparisons level texts).length < fuel := by
    rwa [comparisons, List.length_map]
  rw [runFrom_straight (fun _ => takes_of_mem_comparisons) limits short code bottom,
    behind?_comparisons]

end Machine

namespace Pattern

variable {level : MatchLevel} {p : Program}

/-- Units one after the other can be compiled, however many there are. -/
theorem isSupported_units (units : List Text) :
    (concatenation (units.map fun unit => .atom (.char unit))).isSupported = true := by
  refine Bool.and_eq_true_iff.2 ⟨?levelable, ?code⟩
  case levelable =>
    induction units with
    | nil => rfl
    | cons unit units ih => exact ih
  case code =>
    induction units with
    | nil => rfl
    | cons unit units ih => exact ih

theorem isSupported_ofUnits (units : List Text) : (ofUnits units).isSupported = true := by
  match units with
  | [] | [_] => rfl
  | first :: second :: units => exact isSupported_units (first :: second :: units)

theorem codeAt_of_all (units : List Text) {c c' : Cursor}
    (h : Fragment.all (fragments level (units.map fun unit => .atom (.char unit))) p c c') :
    p.CodeAt c.ip (comparisons level units) ∧ c'.ip = c.ip + units.length := by
  induction units generalizing c with
  | nil =>
    cases h
    exact ⟨trivial, rfl⟩
  | cons unit units ih =>
    obtain ⟨_, ⟨first, rfl⟩, later⟩ := h
    obtain ⟨code, stop⟩ := ih later
    refine ⟨⟨first.1, code⟩, ?_⟩
    rw [stop, Cursor.ip_advance, List.length_singleton, List.length_cons, Nat.add_assoc,
      Nat.add_comm 1]

/-- Where a literal stands, its units are compared one after the other. -/
theorem codeAt_of_ofUnits {units : List Text} {c c' : Cursor}
    (h : (ofUnits units).fragment level p c c') :
    p.CodeAt c.ip (comparisons level units) ∧ c'.ip = c.ip + units.length := by
  match units with
  | [] => exact codeAt_of_all [] h
  | [unit] => exact codeAt_of_all [unit] ⟨c', h, rfl⟩
  | first :: second :: units => exact codeAt_of_all (first :: second :: units) h

end Pattern

/-! ## Regexes -/

/-- Whether the clusters of a source are accepted at the end of a subject. -/
theorem Machine.isSome_afterTexts? (p : Program) (level : MatchLevel) (source subject : Text) :
    ((subject.start.afterTexts? level source.clusters).filter
      (acceptsAt ⟨p, subject, true⟩)).isSome = decide (subject = source) := by
  have accepts {q : Position} (h : subject.start.afterTexts? level source.clusters = some q) :
      acceptsAt ⟨p, subject, true⟩ q = true ↔ q.rest = [] := by
    rw [acceptsAt, Bool.not_true, Bool.false_or, beq_iff_eq]
    exact Text.offset_eq_byteLength_iff (Position.reaches_of_afterTexts? h)
  rw [Bool.eq_iff_iff, decide_eq_true_iff, Option.isSome_iff_exists]
  rw [show subject = source ↔ subject.start.rest = source from Iff.rfl,
    ← Position.exists_afterTexts?_iff level]
  refine exists_congr fun q => ?_
  rw [Option.filter_eq_some_iff]
  exact and_congr_right accepts

namespace Regex

/-- A source without special characters makes a regex, and the regex matches a whole subject if and
only if the subject is the source. One unit of fuel more than the source has clusters is enough. -/
theorem matchesWhole_literal {source : Text} (literal : source.IsLiteral) (level : MatchLevel)
    (limits : Limits) (maxDepth : Nat) (enough : source.clusters.length < limits.fuel) :
    ∃ r, build source ⟨.traditional, level, limits, maxDepth⟩ = .ok r ∧
      ∀ subject, r.matchesWhole subject = .ok (decide (subject = source)) := by
  obtain ⟨p, compiled⟩ :=
    (Pattern.compile_ok_iff level _).2 (Pattern.isSupported_ofUnits source.clusters)
  refine ⟨⟨source, p, level, limits⟩, ?_, fun subject => ?_⟩
  · rw [build, Pattern.parse_of_literal literal]
    simp only [compiled]
  · obtain ⟨stop, whole⟩ := Pattern.compiled_of_compile compiled
    obtain ⟨code, last⟩ := Pattern.codeAt_of_ofUnits whole.code
    have accept :
        p.CodeAt (Cursor.start.ip + (comparisons level source.clusters).length) [.accept] := by
      rw [comparisons, List.length_map, ← last]
      exact ⟨whole.accept, trivial⟩
    have ran := Machine.runFrom_texts (m := ⟨p, subject, true⟩) limits
      (s := .initial p subject.start) enough (Program.codeAt_append.2 ⟨code, accept⟩) rfl
    rw [matchesWhole, machine, Machine.run, ran]
    exact congrArg Except.ok (Machine.isSome_afterTexts? p level source subject)

/-- With an accent on it, a parenthesis matches itself and not the bare one. -/
theorem matchesWhole_accented_parenthesis :
    ∃ r, build ['(', '\u0301'] ⟨.traditional, .scalar, ⟨2, 0⟩, 0⟩ = .ok r ∧
      r.matchesWhole ['(', '\u0301'] = .ok true ∧ r.matchesWhole ['('] = .ok false := by
  have cut : Text.clusters ['(', '\u0301'] = [['(', '\u0301']] := by decide +kernel
  have literal : Text.IsLiteral ['(', '\u0301'] := by
    intro unit mem
    rw [cut, List.mem_singleton] at mem
    rw [mem]
    exact fun c _ same => nomatch same
  have enough : (Text.clusters ['(', '\u0301']).length < 2 := by
    rw [cut]
    decide
  obtain ⟨r, built, matched⟩ := matchesWhole_literal literal .scalar ⟨2, 0⟩ 0 enough
  exact ⟨r, built, matched _, matched _⟩

end Regex

end GraphemeRegex
