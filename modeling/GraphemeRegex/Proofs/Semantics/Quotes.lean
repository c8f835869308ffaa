import GraphemeRegex.Proofs.Semantics.Literals

/-! # Quotes — a constant text is its clusters one after the other

A quote is one instruction: what comes next must begin with its text and, at the grapheme level, go
on at a boundary of the subject. Its clusters spelled out are an instruction each, and each one cuts
the next cluster off what is left. From a boundary the two see the same clusters, so they succeed
together and end at the same position.

* `Position.matchString?_eq_afterTexts?`: what comes next, taken at once or cluster by cluster.
* `Pattern.quote_code`, `Pattern.spelled_code`: the two programs.
* `Pattern.compile_quote_clusters`: their instructions succeed together, and so do their runs.
-/

namespace GraphemeRegex

/-! ## Texts at boundaries -/

theorem Text.length_clusters_pos {text : Text} (filled : text ≠ []) : 0 < text.clusters.length := by
  obtain ⟨c, rest, rfl⟩ := List.exists_cons_of_ne_nil filled
  rw [clusters_cons]
  exact Nat.succ_pos _

/-- From a boundary, comparing clusters leads to a boundary. -/
theorem Text.Between.afterTexts? {subject : Text} {texts : List Text} {p q : Position}
    (h : subject.Between p) (matched : p.afterTexts? .grapheme texts = some q) :
    subject.Between q := by
  induction texts generalizing p with
  | nil =>
    cases matched
    exact h
  | cons text texts ih =>
    obtain ⟨found, first, later⟩ := Position.afterTexts?_cons_eq_some_iff.1 matched
    exact ih (h.nextCluster? (Option.filter_eq_some_iff.1 first).1) later

namespace Position

variable {subject text : Text} {level : MatchLevel} {p q : Position}

/-- A constant text comes next, and where boundaries matter it ends at one. -/
theorem matchString?_eq_some_iff :
    (p.matchString? subject text level).map Prod.snd = some q ↔
      p.after? text = some q ∧ (level = .grapheme → q.offset ∈ subject.boundaries) := by
  cases level with
  | scalar => simp [matchString?, Option.map_map, Function.comp_def]
  -- only whole clusters: the text has to end at a boundary
  | grapheme =>
    rw [Option.map_eq_some_iff]
    constructor
    · rintro ⟨found, matched, rfl⟩
      obtain ⟨r, reached, here⟩ := Option.bind_eq_some_iff.1 matched
      obtain ⟨boundary, same⟩ := Option.ite_none_right_eq_some.1 here
      obtain rfl := Option.some.inj same
      exact ⟨reached, fun _ => List.contains_iff_mem.1 boundary⟩
    · rintro ⟨reached, boundary⟩
      have ends : subject.isBoundary q.offset = true := List.contains_iff_mem.2 (boundary rfl)
      refine ⟨(text, q), Option.bind_eq_some_iff.2 ⟨q, reached, ?_⟩, rfl⟩
      rw [if_pos ends]

/-- From a boundary, a constant text comes next if and only if its clusters do so one after the
other. -/
theorem matchString?_eq_afterTexts? (inside : subject.start.Reaches p)
    (boundary : level = .grapheme → subject.Between p) :
    (p.matchString? subject text level).map Prod.snd = p.afterTexts? level text.clusters := by
  ext q
  rw [matchString?_eq_some_iff]
  cases level with
  | scalar => simp [afterTexts?_scalar, Text.clusters_flatten]
  | grapheme =>
    have first := boundary rfl
    rw [afterTexts?_grapheme, Text.clusters_flatten]
    refine and_congr_right fun reached => ?_
    have whole : subject.start.Reaches q := inside.trans ⟨text, reached⟩
    constructor
    · intro ends
      exact first.clusters_eq_append ((Text.between_iff whole).2 (ends rfl)) reached
    · intro cut _
      -- who goes on cluster by cluster stays between the clusters of the subject
      have matched : p.afterTexts? .grapheme text.clusters = some q :=
        afterTexts?_grapheme.2 ⟨by rwa [Text.clusters_flatten], cut⟩
      exact (Text.between_iff whole).1 (first.afterTexts? matched)

end Position

/-! ## The two programs -/

namespace Pattern

variable {level : MatchLevel} {text : Text} {p : Program}

/-- The program of a quote. -/
theorem quote_code (compiled : (quote text).compile level = .ok p) :
    ∃ id, p.strings.get? id = some text ∧ p.code.toList = [.matchString id level, .accept] := by
  obtain ⟨stop, whole⟩ := compiled_of_compile compiled
  obtain ⟨id, found, code, rfl⟩ := whole.code
  refine ⟨id, found, Program.toList_of_codeAt ?_ whole.size⟩
  exact ⟨code.1, whole.accept, trivial⟩

/-- The program of units spelled out. -/
theorem spelled_code {units : List Text}
    (compiled : (concatenation (units.map fun unit => .atom (.char unit))).compile level = .ok p) :
    p.code.toList = comparisons level units ++ [.accept] := by
  obtain ⟨stop, whole⟩ := compiled_of_compile compiled
  obtain ⟨code, last⟩ := codeAt_of_all units whole.code
  have size : (comparisons level units).length = units.length := List.length_map _
  refine Program.toList_of_codeAt (Program.codeAt_append.2 ⟨code, ?_⟩) ?_
  · have accept := whole.accept
    rw [last, ← size] at accept
    exact ⟨accept, trivial⟩
  · rw [whole.size, last, List.length_append, size]
    exact congrArg (· + 1) (Nat.zero_add _)

end Pattern

/-! ## Agreement -/

namespace Machine

variable {m : Machine} {level : MatchLevel} {text : Text}

/-- A constant text that is tried alone. -/
theorem behind?_matchString {id : StringId} (found : m.program.strings.get? id = some text)
    (p : Position) :
    m.behind? [.matchString id level] p = (p.matchString? m.subject text level).map Prod.snd := by
  rw [behind?, Instruction.consumes?, found, Option.bind_some]
  cases p.matchString? m.subject text level <;> rfl

end Machine

namespace Pattern

variable {subject text : Text} {level : MatchLevel} {quoted : Program} {id : StringId} {start : Nat}
  {p : Position}

/-- From a boundary, the instruction of a quote leads where those of its clusters lead. -/
theorem behind?_quote (found : quoted.strings.get? id = some text)
    (here : subject.positionAt? start = some p)
    (boundary : level = .grapheme → start ∈ subject.boundaries) (acceptAtEnd : Bool) :
    (⟨quoted, subject, acceptAtEnd⟩ : Machine).behind? [.matchString id level] p =
      p.afterTexts? level text.clusters := by
  obtain ⟨inside, rfl⟩ := Text.positionAt?_eq_some_iff.1 here
  rw [Machine.behind?_matchString found]
  exact Position.matchString?_eq_afterTexts? inside fun same =>
    (Text.between_iff inside).2 (boundary same)

/-- A quote agrees with its clusters spelled out. The one instruction of the quote succeeds where
the subject has a boundary, or anywhere at the scalar level, if and only if the instructions of the
clusters do, one after the other. Both then end where the text ends, and so the runs of the two
programs have the same outcome, if they have a step for each cluster and one more. -/
theorem compile_quote_clusters (filled : text ≠ []) (level : MatchLevel) :
    ∃ quoted spelled id, (quote text).compile level = .ok quoted ∧
      (concatenation (text.clusters.map fun unit => .atom (.char unit))).compile level =
        .ok spelled ∧
      quoted.code.toList = [.matchString id level, .accept] ∧
      spelled.code.toList = comparisons level text.clusters ++ [.accept] ∧
      ∀ (subject : Text) (start : Nat) (p : Position) (acceptAtEnd : Bool),
        subject.positionAt? start = some p →
        (level = .grapheme → start ∈ subject.boundaries) →
        let fast : Machine := ⟨quoted, subject, acceptAtEnd⟩
        let slow : Machine := ⟨spelled, subject, acceptAtEnd⟩
        fast.behind? [.matchString id level] p = slow.behind? (comparisons level text.clusters) p ∧
          (∀ q, fast.behind? [.matchString id level] p = some q →
            q.offset = start + text.byteLength) ∧
          ∀ limits, text.clusters.length < limits.fuel →
            fast.runAt limits start = slow.runAt limits start := by
  obtain ⟨quoted, compiled⟩ := (compile_ok_iff level (quote text)).2 rfl
  obtain ⟨spelled, compiled'⟩ := (compile_ok_iff level _).2 (isSupported_units text.clusters)
  obtain ⟨id, found, code⟩ := quote_code compiled
  have code' := spelled_code compiled'
  refine ⟨quoted, spelled, id, compiled, compiled', code, code', ?_⟩
  intro subject start p acceptAtEnd here boundary fast slow
  -- where the one instruction leads, so do the comparisons, one after the other
  have quick := behind?_quote found here boundary acceptAtEnd
  have same : fast.behind? [.matchString id level] p =
      slow.behind? (comparisons level text.clusters) p :=
    quick.trans Machine.behind?_comparisons.symm
  refine ⟨same, ?_, ?_⟩
  · intro q ends
    have reached := Position.after?_of_afterTexts? (quick.symm.trans ends)
    rw [Text.clusters_flatten] at reached
    rw [(Position.after?_eq_some_iff.1 reached).2, (Text.positionAt?_eq_some_iff.1 here).2]
  · intro limits enough
    have several : 1 < limits.fuel := Nat.lt_of_le_of_lt (Text.length_clusters_pos filled) enough
    have straight : ∀ i ∈ [Instruction.matchString id level], fast.Takes i := fun i mem =>
      List.mem_singleton.1 mem ▸ Machine.takes_matchString level found
    have short : (comparisons level text.clusters).length < limits.fuel := by
      rwa [comparisons, List.length_map]
    rw [Machine.runAt, Machine.runAt, here]
    -- straight code with enough fuel ends where its instructions lead
    calc fast.run limits p
      _ = .ok ((fast.behind? [.matchString id level] p).filter fast.acceptsAt) :=
        Machine.run_straight straight code several p
      _ = .ok ((slow.behind? (comparisons level text.clusters) p).filter slow.acceptsAt) := by
        rw [same]
        rfl
      _ = slow.run limits p :=
        (Machine.run_straight (fun _ => Machine.takes_of_mem_comparisons) code' short p).symm

/-- A line end is one cluster. A quote that ends with it matches behind an accented letter, as the
letter and the line end spelled out do, and three steps are enough for either. -/
theorem compile_quote_clusters_of_line_end :
    let text : Text := ['a', '\r', '\n']
    let subject : Text := ['e', '\u0301', 'a', '\r', '\n']
    ∃ quoted spelled id, (quote text).compile .grapheme = .ok quoted ∧
      (concatenation [.atom (.char ['a']), .atom (.char ['\r', '\n'])]).compile .grapheme =
        .ok spelled ∧
      (⟨quoted, subject, false⟩ : Machine).behind? [.matchString id .grapheme] ⟨3, text⟩ =
        some ⟨6, []⟩ ∧
      (⟨quoted, subject, false⟩ : Machine).runAt ⟨3, 0⟩ 3 =
        (⟨spelled, subject, false⟩ : Machine).runAt ⟨3, 0⟩ 3 := by
  intro text subject
  have cut : text.clusters = [['a'], ['\r', '\n']] := by decide +kernel
  have filled : text ≠ [] := List.cons_ne_nil _ _
  obtain ⟨quoted, spelled, id, compiled, compiled', -, -, agree⟩ :=
    compile_quote_clusters filled .grapheme
  obtain ⟨same, -, runs⟩ := agree subject 3 ⟨3, text⟩ false (by decide +kernel)
    fun _ => by decide +kernel
  rw [cut] at compiled' same runs
  have behind : (⟨3, text⟩ : Position).afterTexts? .grapheme [['a'], ['\r', '\n']] =
      some ⟨6, []⟩ := by decide +kernel
  exact ⟨quoted, spelled, id, compiled, compiled',
    same.trans (Machine.behind?_comparisons.trans behind), runs ⟨3, 0⟩ (by decide)⟩

end Pattern

end GraphemeRegex
