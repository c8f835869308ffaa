import GraphemeRegex.Lowering.Compile
import GraphemeRegex.Proofs.Pattern.Nodes
import GraphemeRegex.Proofs.Reading.Totality

/-! # Open levels — classes that have none get the one of the program

A class that was not leveled is tested at the level that the program is made for. So where no class
has another level, leveling a tree before its program is made has no effect on the program.

* `Pattern.OpenTo`: no class has another level.
* `Pattern.emit_relevel`: leveling such a tree does not change its code.
* `Pattern.not_mem_nodes_of_shaped`: trees that are read have no classes with levels.
* `Pattern.compile_eq_lower`: with leveling and without it, the program or the refusal is the same.
-/

namespace GraphemeRegex

namespace Pattern

/-- Each class among the nodes has the level or none. -/
def OpenTo (level : MatchLevel) (nodes : List Pattern) : Prop :=
  ∀ cls own, leveled cls own ∈ nodes → own = none ∨ own = some level

variable {level : MatchLevel}

/-- What holds of all nodes holds of the others. -/
theorem OpenTo.tail {t : Pattern} {nodes : List Pattern} (h : OpenTo level (t :: nodes)) :
    OpenTo level nodes :=
  fun cls own mem => h cls own (List.mem_cons_of_mem _ mem)

/-- Classes are open to a level if they are in each part. -/
theorem openTo_append {nodes nodes' : List Pattern} :
    OpenTo level (nodes ++ nodes') ↔ OpenTo level nodes ∧ OpenTo level nodes' := by
  simp only [OpenTo, List.mem_append, or_imp, forall_and]

/-! ## Code -/

mutual

/-- Leveling does not change the code, if no class has another level. -/
theorem emit_relevel : ∀ {t : Pattern}, OpenTo level t.nodes →
    emit level (t.relevel level) = emit level t
  | alternation [], _ => rfl
  | alternation (t :: ts), h => by
    -- the label behind the branches is made first, and does not depend on them
    have same (done : Label) : emitBranches level done (relevel level t :: relevelAll level ts) =
        emitBranches level done (t :: ts) := emitBranches_relevelAll done h.tail
    rw [relevel, relevelAll, emit, emit]
    simp only [List.isEmpty_cons, same]
  | concatenation _, h => emitAll_relevelAll h.tail
  | group kind _, h => congrArg (emitGroup kind) (emit_relevel h.tail)
  | transformed _ _ body, h => emit_relevel (t := body) h.tail
  | repetition _ _ body, h => by
    rw [relevel, emit, emit, mayBeEmpty_relevel, emit_relevel (t := body) h.tail]
  | leveled cls own, h => by
    rcases h cls own (List.mem_singleton.2 rfl) with rfl | rfl <;> rfl
  | atom a, _ => by cases a <;> rfl
  | quote _, _ | trivia _, _ | custom _ _, _ | empty, _ => rfl

/-- Leveling does not change the code of the items of a sequence, either. -/
theorem emitAll_relevelAll : ∀ {ts : List Pattern}, OpenTo level (nodesAll ts) →
    emitAll level (relevelAll level ts) = emitAll level ts
  | [], _ => rfl
  | t :: ts, h => by
    obtain ⟨here, later⟩ := openTo_append.1 h
    rw [relevelAll, emitAll, emitAll, emit_relevel here, emitAll_relevelAll later]

theorem emitBranches_relevelAll (done : Label) : ∀ {ts : List Pattern},
    OpenTo level (nodesAll ts) →
      emitBranches level done (relevelAll level ts) = emitBranches level done ts
  | [], _ => rfl
  | [t], h => emit_relevel (openTo_append.1 h).1
  | t :: t' :: ts, h => by
    obtain ⟨here, later⟩ := openTo_append.1 h
    have rest := emitBranches_relevelAll done later
    rw [relevelAll] at rest
    rw [relevelAll, relevelAll, emitBranches, emitBranches, emit_relevel here, rest]

end

/-! ## Trees that are read -/

mutual

/-- A tree of the shape of trees that are read has no class with a place for a level. -/
theorem not_mem_nodes_of_shaped {source : Text} {cls : CharClass} {own : Option MatchLevel} :
    ∀ {t : Pattern}, t.Shaped source → leveled cls own ∉ t.nodes
  | alternation _, h, mem => by
    rcases List.mem_cons.1 mem with same | mem
    · cases same
    · exact not_mem_nodesAll_of_shapedAll h.2.2 mem
  | concatenation _, h, mem => by
    rcases List.mem_cons.1 mem with same | mem
    · cases same
    · exact not_mem_nodesAll_of_shapedAll h.2.2.2 mem
  | group _ _, h, mem => by
    rcases List.mem_cons.1 mem with same | mem
    · cases same
    · exact not_mem_nodes_of_shaped h.2 mem
  | repetition _ _ _, h, mem => by
    rcases List.mem_cons.1 mem with same | mem
    · cases same
    · exact not_mem_nodes_of_shaped h.2.2 mem
  | atom _, _, mem | custom _ _, _, mem | quote _, _, mem | trivia _, _, mem | empty, _, mem => by
    cases List.mem_singleton.1 mem
  | leveled _ _, h, _ | transformed _ _ _, h, _ => h

/-- Several trees of this shape have no such class among their nodes. -/
theorem not_mem_nodesAll_of_shapedAll {source : Text} {cls : CharClass}
    {own : Option MatchLevel} :
    ∀ {ts : List Pattern}, ShapedAll source ts → leveled cls own ∉ nodesAll ts
  | [], _, mem => nomatch mem
  | _ :: _, h, mem => by
    rcases List.mem_append.1 mem with mem | mem
    · exact not_mem_nodes_of_shaped h.1 mem
    · exact not_mem_nodesAll_of_shapedAll h.2 mem

end

/-! ## Programs -/

/-- Without bracketed classes and without classes that have another level, leveling a tree before
its program is made leads to the same program or to the same refusal. No class of a tree that was
read has a level. -/
theorem compile_eq_lower (level : MatchLevel) :
    (∀ t : Pattern, (∀ x ∈ t.nodes, x.isCustom = false) → OpenTo level t.nodes →
      t.compile level = t.lower level) ∧
    ∀ (source : Text) (dialect : Dialect) (limit : Nat) (t : Pattern),
      parse source dialect limit = .ok t → OpenTo level t.nodes := by
  constructor
  · intro t plain untagged
    -- leveling does not stop, and leads to the leveled tree
    have none : t.nodes.find? isCustom = none := by
      simpa only [List.find?_eq_none, Bool.not_eq_true] using plain
    rw [compile, withLevel_eq, none]
    show (t.relevel level).lower level = t.lower level
    rw [lower, lower, emit_relevel untagged]
  · intro source dialect limit t parsed cls own mem
    obtain ⟨r, i, ends, rfl⟩ := (reads_parse source dialect limit).of_eq_ok parsed
    -- reading makes classes without a place for a level
    have shaped := ends.reached.fits.current.toPattern
    exact absurd mem (not_mem_nodes_of_shaped shaped)

/-- A digit that was leveled, a lookbehind in a loop that leaves nothing to repeat, and a class
without a level in a possessive loop; and a tree that was read. -/
theorem compile_eq_lower_of_leveled_digit :
    let t : Pattern := .concatenation [.leveled ⟨.digit, false⟩ (some .scalar),
      .repetition (.exactly 0) .eager (.group .lookbehind (.atom (.cls ⟨.word, false⟩))),
      .repetition .oneOrMore .possessive (.leveled ⟨.word, false⟩ none)]
    ((∀ x ∈ t.nodes, x.isCustom = false) ∧ OpenTo .scalar t.nodes ∧
      t.compile .scalar = t.lower .scalar) ∧
    ∃ t', parse "(?:\\d|a*)+".toList .traditional 1 = .ok t' ∧
      t'.compile .grapheme = t'.lower .grapheme := by
  intro t
  have plain : ∀ x ∈ t.nodes, x.isCustom = false := by decide
  have untagged : OpenTo .scalar t.nodes := by
    intro cls own mem
    have own_eq : (cls = ⟨.digit, false⟩ ∧ own = some .scalar) ∨
        (cls = ⟨.word, false⟩ ∧ own = none) := by
      simpa [t, nodes, nodesAll] using mem
    rcases own_eq with ⟨_, rfl⟩ | ⟨_, rfl⟩
    · exact .inr rfl
    · exact .inl rfl
  refine ⟨⟨plain, untagged, (compile_eq_lower .scalar).1 t plain untagged⟩, ?_⟩
  obtain ⟨t', parsed, plain'⟩ : ∃ t', parse "(?:\\d|a*)+".toList .traditional 1 = .ok t' ∧
      ∀ x ∈ t'.nodes, x.isCustom = false :=
    ⟨.repetition .oneOrMore .eager (.group .nonCapture (.alternation [
      .atom (.cls ⟨.digit, false⟩), .repetition .zeroOrMore .eager (.atom (.char ['a']))])),
      by decide +kernel, by decide⟩
  have untagged' := (compile_eq_lower .grapheme).2 _ _ _ t' parsed
  exact ⟨t', parsed, (compile_eq_lower .grapheme).1 t' plain' untagged'⟩

end Pattern

end GraphemeRegex
