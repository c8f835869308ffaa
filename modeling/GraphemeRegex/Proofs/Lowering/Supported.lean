import GraphemeRegex.Proofs.Lowering.Refusal

/-! # Support — which patterns have a program

A pattern has a program if there is no bracketed class in it, and no construct without code that is
not left out. Neither depends on the level or on what surrounds a pattern.

* `Pattern.isLevelable`, `Pattern.hasCode`: no bracketed class, no construct without code.
* `Pattern.compile_ok_iff`: the patterns that have a program.
-/

namespace GraphemeRegex

namespace Pattern

/-! ## Supported patterns -/

mutual

/-- Whether a pattern has no bracketed class. -/
def isLevelable : Pattern → Bool
  | alternation branches => allLevelable branches
  | concatenation items => allLevelable items
  | group _ body | transformed _ _ body | repetition _ _ body => isLevelable body
  | custom _ _ => false
  | quote _ | trivia _ | atom _ | leveled _ _ | empty => true

/-- Whether none of the patterns has a bracketed class. -/
def allLevelable : List Pattern → Bool
  | [] => true
  | t :: ts => isLevelable t && allLevelable ts

end

mutual

/-- Whether all of a pattern that is not left out has code. -/
def hasCode : Pattern → Bool
  | alternation branches => allHaveCode branches
  | concatenation items => allHaveCode items
  | group kind body => kind.hasCode && hasCode body
  | transformed _ _ body => hasCode body
  | repetition amount _ body => amount.isDegenerate || hasCode body
  | atom a => a.hasCode
  | custom _ _ => false
  | quote _ | trivia _ | leveled _ _ | empty => true

/-- Whether all of the patterns have code. -/
def allHaveCode : List Pattern → Bool
  | [] => true
  | t :: ts => hasCode t && allHaveCode ts

end

/-- Whether a pattern has a program. -/
def isSupported (t : Pattern) : Bool := t.isLevelable && t.hasCode

/-- A loop of a pattern that has a program has one. -/
theorem isSupported_repetition {t : Pattern} (supported : t.isSupported = true) (amount : Amount)
    (greed : Greed) : (repetition amount greed t).isSupported = true := by
  simp only [isSupported, isLevelable, hasCode, Bool.and_eq_true, Bool.or_eq_true] at supported ⊢
  exact ⟨supported.1, .inr supported.2⟩

/-! ## Nodes of supported patterns -/

mutual

/-- Bracketed classes are looked for in the whole tree. -/
theorem isLevelable_eq_all : ∀ t : Pattern, t.isLevelable = t.nodes.all (!·.isCustom)
  | alternation branches => allLevelable_eq_all branches
  | concatenation items => allLevelable_eq_all items
  | group _ body | transformed _ _ body | repetition _ _ body => isLevelable_eq_all body
  | quote _ | trivia _ | atom _ | leveled _ _ | custom _ _ | empty => rfl

theorem allLevelable_eq_all : ∀ ts : List Pattern,
    allLevelable ts = (nodesAll ts).all (!·.isCustom)
  | [] => rfl
  | t :: ts => by
    rw [allLevelable, isLevelable_eq_all t, allLevelable_eq_all ts, nodesAll, List.all_append]

end

mutual

/-- Constructs without code are looked for where they are not left out. -/
theorem hasCode_eq_all : ∀ t : Pattern, t.hasCode = t.liveNodes.all (!·.lacksCode)
  | alternation branches => allHaveCode_eq_all branches
  | concatenation items => allHaveCode_eq_all items
  | group kind body => by
    rw [hasCode, hasCode_eq_all body, liveNodes, List.all_cons, lacksCode, Bool.not_not]
  | transformed _ _ body => hasCode_eq_all body
  | repetition amount _ body => by
    rw [hasCode, hasCode_eq_all body, liveNodes, List.all_cons]
    cases amount.isDegenerate <;> rfl
  | atom a => by cases a <;> rfl
  | quote _ | trivia _ | leveled _ _ | custom _ _ | empty => rfl

theorem allHaveCode_eq_all : ∀ ts : List Pattern,
    allHaveCode ts = (liveNodesAll ts).all (!·.lacksCode)
  | [] => rfl
  | t :: ts => by
    rw [allHaveCode, hasCode_eq_all t, allHaveCode_eq_all ts, liveNodesAll, List.all_append]

end

/-- The supported patterns are those without an offender. -/
theorem isSupported_iff (t : Pattern) : t.isSupported = true ↔ t.offender? = none := by
  rw [isSupported, isLevelable_eq_all, hasCode_eq_all, offender?, Option.or_eq_none_iff,
    List.find?_eq_none, List.find?_eq_none, Bool.and_eq_true, List.all_eq_true, List.all_eq_true]
  simp only [Bool.not_eq_true', Bool.not_eq_true]

/-! ## Programs -/

/-- A pattern has a program exactly if it is supported. -/
theorem compile_ok_iff (level : MatchLevel) (t : Pattern) :
    (∃ p, t.compile level = .ok p) ↔ t.isSupported = true := by
  have compiles := compile_of_offender? level t
  rw [isSupported_iff]
  cases found : t.offender? with
  | some node =>
    rw [found] at compiles
    rw [compiles]
    exact ⟨nofun, nofun⟩
  | none =>
    rw [found] at compiles
    exact ⟨fun _ => rfl, fun _ => compiles⟩

end Pattern

end GraphemeRegex
