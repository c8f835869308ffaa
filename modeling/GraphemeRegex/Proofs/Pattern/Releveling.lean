import GraphemeRegex.Lowering.Emptiness
import GraphemeRegex.Pattern.Leveling

/-! # Releveling — the tree that leveling makes

Where leveling succeeds, its result is a plain function of the tree.

* `Pattern.relevel`: the tree with every class tested at a level.
* `Pattern.uniform_withLevel`: leveling stops at the same place at each level, or makes this tree.
* `Pattern.mayBeEmpty_relevel`: leveling does not change which patterns may be empty.
-/

namespace GraphemeRegex

/-- Two actions one after the other succeed only if both do. -/
theorem exists_of_bind_eq_ok {ε α β : Type} {x : Except ε α} {f : α → Except ε β} {b : β}
    (h : x >>= f = .ok b) : ∃ a, x = .ok a ∧ f a = .ok b := by
  cases x with
  | error e => cases h
  | ok a => exact ⟨a, rfl, h⟩

namespace Pattern

mutual

/-- The tree with every class tested at the given level. -/
def relevel (level : MatchLevel) : Pattern → Pattern
  | alternation branches => alternation (relevelAll level branches)
  | concatenation items => concatenation (relevelAll level items)
  | group kind body => group kind (relevel level body)
  | transformed transform kind body => transformed transform kind (relevel level body)
  | repetition amount greed body => repetition amount greed (relevel level body)
  | leveled cls _ => leveled cls (some level)
  | atom (.cls cls) => leveled cls (some level)
  | t => t

/-- Every tree of a list with the given level. -/
def relevelAll (level : MatchLevel) : List Pattern → List Pattern
  | [] => []
  | p :: ps => relevel level p :: relevelAll level ps

end

/-- Whatever the level, `x` stops with the same error or has the result `a`. -/
def Uniform {α : Type} (x : MatchLevel → Except Unsupported α) (a : MatchLevel → α) : Prop :=
  (∃ e, ∀ level, x level = .error e) ∨ ∀ level, x level = .ok (a level)

/-- What stops in front stops at each level; otherwise what follows decides. -/
theorem Uniform.bind {α β : Type} {x : MatchLevel → Except Unsupported α} {a : MatchLevel → α}
    {f : MatchLevel → α → Except Unsupported β} {b : MatchLevel → β} (h : Uniform x a)
    (later : Uniform (fun level => f level (a level)) b) :
    Uniform (fun level => x level >>= f level) b := by
  rcases h with ⟨e, stops⟩ | ends
  · refine .inl ⟨e, fun level => ?_⟩
    show (x level >>= f level) = .error e
    rw [stops level]
    rfl
  · have same : (fun level => x level >>= f level) = fun level => f level (a level) := by
      funext level
      rw [ends level]
      rfl
    rwa [same]

/-- What never stops is uniform. -/
theorem uniform_ok {α : Type} {x : MatchLevel → Except Unsupported α} {a : MatchLevel → α}
    (h : ∀ level, x level = .ok (a level)) : Uniform x a := .inr h

mutual

/-- Leveling stops at the same place at each level, or makes the releveled tree. -/
theorem uniform_withLevel : ∀ t : Pattern, Uniform (t.withLevel ·) (t.relevel ·)
  | alternation branches => (uniform_withLevelAll branches).bind (uniform_ok fun _ => rfl)
  | concatenation items => (uniform_withLevelAll items).bind (uniform_ok fun _ => rfl)
  | group _ body => (uniform_withLevel body).bind (uniform_ok fun _ => rfl)
  | transformed _ _ body => (uniform_withLevel body).bind (uniform_ok fun _ => rfl)
  | repetition _ _ body => (uniform_withLevel body).bind (uniform_ok fun _ => rfl)
  | atom a => by cases a <;> exact uniform_ok fun _ => rfl
  | leveled _ _ | quote _ | trivia _ | empty => uniform_ok fun _ => rfl
  | custom inverted _ => .inl ⟨⟨customTag inverted⟩, fun _ => rfl⟩

theorem uniform_withLevelAll : ∀ ts : List Pattern,
    Uniform (withLevelAll · ts) (relevelAll · ts)
  | [] => uniform_ok fun _ => rfl
  | t :: ts =>
    (uniform_withLevel t).bind ((uniform_withLevelAll ts).bind (uniform_ok fun _ => rfl))

end

/-- Leveling makes the releveled tree, if it makes any. -/
theorem eq_relevel_of_withLevel (level : MatchLevel) (t tree : Pattern)
    (h : t.withLevel level = .ok tree) : tree = t.relevel level := by
  rcases uniform_withLevel t with ⟨e, stops⟩ | ends
  · have stop : t.withLevel level = .error e := stops level
    rw [stop] at h
    cases h
  · have made : t.withLevel level = .ok (t.relevel level) := ends level
    rw [made] at h
    exact (Except.ok.inj h).symm

mutual

/-- Leveling does not change whether a pattern may be empty. -/
theorem mayBeEmpty_relevel (level : MatchLevel) :
    ∀ t : Pattern, (t.relevel level).mayBeEmpty = t.mayBeEmpty
  | alternation branches => anyMayBeEmpty_relevelAll level branches
  | concatenation items => allMayBeEmpty_relevelAll level items
  | group kind body => by
    rw [relevel, mayBeEmpty, mayBeEmpty, mayBeEmpty_relevel level body]
  | transformed _ kind body => by
    rw [relevel, mayBeEmpty, mayBeEmpty, mayBeEmpty_relevel level body]
  | repetition amount _ body => by
    rw [relevel, mayBeEmpty, mayBeEmpty, mayBeEmpty_relevel level body]
  | atom a => by cases a <;> rfl
  | leveled _ _ | quote _ | trivia _ | empty | custom _ _ => rfl

/-- The same for branches, of which one is enough. -/
theorem anyMayBeEmpty_relevelAll (level : MatchLevel) :
    ∀ ts : List Pattern, anyMayBeEmpty (relevelAll level ts) = anyMayBeEmpty ts
  | [] => rfl
  | t :: ts => by
    rw [relevelAll, anyMayBeEmpty, anyMayBeEmpty, mayBeEmpty_relevel level t,
      anyMayBeEmpty_relevelAll level ts]

/-- Leveling does not change whether all items of a sequence may be empty. -/
theorem allMayBeEmpty_relevelAll (level : MatchLevel) :
    ∀ ts : List Pattern, allMayBeEmpty (relevelAll level ts) = allMayBeEmpty ts
  | [] => rfl
  | t :: ts => by
    rw [relevelAll, allMayBeEmpty, allMayBeEmpty, mayBeEmpty_relevel level t,
      allMayBeEmpty_relevelAll level ts]

end

end Pattern

end GraphemeRegex
