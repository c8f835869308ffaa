import GraphemeRegex.Proofs.Lowering.Ownership
import GraphemeRegex.Proofs.Lowering.Supported
import GraphemeRegex.Proofs.Semantics.Ends

/-! # Regreeding — trees that differ in what their loops try first

Turning eager loops into reluctant ones and back leaves the shape of a tree as it is. Two trees
differ in nothing else if they become the same once all their reluctant loops are made eager.

* `Pattern.eagerly`: the tree with eager loops instead of reluctant ones.
* `Pattern.givesBack`: no atomic group and no possessive loop.
* `Pattern.isSupported_eagerly`, `Pattern.isProper_eagerly`, `Pattern.mayBeEmpty_eagerly`,
  `Pattern.afterAll_repeats_eagerly`: what does not depend on which loops are reluctant.
-/

namespace GraphemeRegex

/-- Eager instead of reluctant. -/
def Greed.eagerly : Greed → Greed
  | eager | reluctant => eager
  | possessive => possessive

namespace Pattern

/-! ## Trees -/

mutual

/-- The tree with eager loops instead of reluctant ones. -/
def eagerly : Pattern → Pattern
  | alternation branches => alternation (eagerlyAll branches)
  | concatenation items => concatenation (eagerlyAll items)
  | group kind body => group kind (eagerly body)
  | transformed transform kind body => transformed transform kind (eagerly body)
  | repetition amount greed body => repetition amount greed.eagerly (eagerly body)
  | leaf => leaf

/-- Each tree of a list with eager loops instead of reluctant ones. -/
def eagerlyAll : List Pattern → List Pattern
  | [] => []
  | t :: ts => eagerly t :: eagerlyAll ts

end

mutual

/-- Whether there is no atomic group and no possessive loop. A group that is transformed has the
code of its body, so its kind does not matter. -/
def givesBack : Pattern → Bool
  | alternation branches => allGiveBack branches
  | concatenation items => allGiveBack items
  | group kind body => kind != .atomic && givesBack body
  | transformed _ _ body => givesBack body
  | repetition _ greed body => greed != .possessive && givesBack body
  | quote _ | trivia _ | atom _ | leveled _ _ | custom _ _ | empty => true

/-- Whether none of the patterns has an atomic group or a possessive loop. -/
def allGiveBack : List Pattern → Bool
  | [] => true
  | t :: ts => givesBack t && allGiveBack ts

end

/-! ## What stays the same -/

mutual

/-- Levels do not depend on what a loop tries first. -/
theorem isLevelable_eagerly : ∀ t : Pattern, t.eagerly.isLevelable = t.isLevelable
  | alternation branches => allLevelable_eagerlyAll branches
  | concatenation items => allLevelable_eagerlyAll items
  | group _ body | transformed _ _ body | repetition _ _ body => isLevelable_eagerly body
  | quote _ | trivia _ | atom _ | leveled _ _ | custom _ _ | empty => rfl

theorem allLevelable_eagerlyAll : ∀ ts : List Pattern,
    allLevelable (eagerlyAll ts) = allLevelable ts
  | [] => rfl
  | t :: ts => congrArg₂ and (isLevelable_eagerly t) (allLevelable_eagerlyAll ts)

end

mutual

/-- A loop has code or not whatever it tries first. -/
theorem hasCode_eagerly : ∀ t : Pattern, t.eagerly.hasCode = t.hasCode
  | alternation branches => allHaveCode_eagerlyAll branches
  | concatenation items => allHaveCode_eagerlyAll items
  | group kind body => congrArg (kind.hasCode && ·) (hasCode_eagerly body)
  | transformed _ _ body => hasCode_eagerly body
  | repetition amount _ body => congrArg (amount.isDegenerate || ·) (hasCode_eagerly body)
  | quote _ | trivia _ | atom _ | leveled _ _ | custom _ _ | empty => rfl

theorem allHaveCode_eagerlyAll : ∀ ts : List Pattern,
    allHaveCode (eagerlyAll ts) = allHaveCode ts
  | [] => rfl
  | t :: ts => congrArg₂ and (hasCode_eagerly t) (allHaveCode_eagerlyAll ts)

end

/-- Which loops are reluctant does not matter for whether there is a program. -/
theorem isSupported_eagerly (t : Pattern) : t.eagerly.isSupported = t.isSupported :=
  congrArg₂ and (isLevelable_eagerly t) (hasCode_eagerly t)

mutual

/-- A proper tree stays proper: loops are not lists of branches. -/
theorem isProper_eagerly : ∀ t : Pattern, t.eagerly.isProper = t.isProper
  | alternation branches => by
    rw [eagerly, isProper, isProper, allProper_eagerlyAll branches]
    cases branches <;> rfl
  | concatenation items => allProper_eagerlyAll items
  | group _ body | transformed _ _ body | repetition _ _ body => isProper_eagerly body
  | quote _ | trivia _ | atom _ | leveled _ _ | custom _ _ | empty => rfl

theorem allProper_eagerlyAll : ∀ ts : List Pattern, allProper (eagerlyAll ts) = allProper ts
  | [] => rfl
  | t :: ts => congrArg₂ and (isProper_eagerly t) (allProper_eagerlyAll ts)

end

mutual

/-- Only the bounds of a loop and its body decide whether it can match nothing. -/
theorem mayBeEmpty_eagerly : ∀ t : Pattern, t.eagerly.mayBeEmpty = t.mayBeEmpty
  | alternation branches => anyMayBeEmpty_eagerlyAll branches
  | concatenation items => allMayBeEmpty_eagerlyAll items
  | group kind body => congrArg (kind.looksAround || ·) (mayBeEmpty_eagerly body)
  | transformed _ kind body => congrArg (kind.looksAround || ·) (mayBeEmpty_eagerly body)
  | repetition amount _ body =>
    congrArg (amount.low == 0 || amount.high?.any (· < amount.low) || ·) (mayBeEmpty_eagerly body)
  | quote _ | trivia _ | atom _ | leveled _ _ | custom _ _ | empty => rfl

theorem anyMayBeEmpty_eagerlyAll : ∀ ts : List Pattern,
    anyMayBeEmpty (eagerlyAll ts) = anyMayBeEmpty ts
  | [] => rfl
  | t :: ts => congrArg₂ or (mayBeEmpty_eagerly t) (anyMayBeEmpty_eagerlyAll ts)

theorem allMayBeEmpty_eagerlyAll : ∀ ts : List Pattern,
    allMayBeEmpty (eagerlyAll ts) = allMayBeEmpty ts
  | [] => rfl
  | t :: ts => congrArg₂ and (mayBeEmpty_eagerly t) (allMayBeEmpty_eagerlyAll ts)

end

open Repeat

mutual

/-- An eager loop gets the registers of a reluctant one. -/
theorem afterAll_repeats_eagerly (c : Cursor) :
    ∀ t : Pattern, afterAll c t.eagerly.repeats = afterAll c t.repeats
  | alternation branches => afterAll_repeatsAll_eagerlyAll c branches
  | concatenation items => afterAll_repeatsAll_eagerlyAll c items
  | group _ body | transformed _ _ body => afterAll_repeats_eagerly c body
  | repetition amount greed body => by
    rw [eagerly, repeats, repeats]
    split
    · rfl
    · -- the registers of a loop depend on its bounds and on whether its body may be empty
      have registers : after ⟨amount, greed.eagerly, body.eagerly⟩ c =
          after ⟨amount, greed, body⟩ c := by
        rw [after, after, mayBeEmpty_eagerly]
      rw [afterAll, afterAll, registers, afterAll_repeats_eagerly _ body]
  | quote _ | trivia _ | atom _ | leveled _ _ | custom _ _ | empty => rfl

theorem afterAll_repeatsAll_eagerlyAll (c : Cursor) : ∀ ts : List Pattern,
    afterAll c (repeatsAll (eagerlyAll ts)) = afterAll c (repeatsAll ts)
  | [] => rfl
  | t :: ts => by
    rw [eagerlyAll, repeatsAll, repeatsAll, afterAll_append, afterAll_append,
      afterAll_repeats_eagerly c t, afterAll_repeatsAll_eagerlyAll _ ts]

end

mutual

/-- Possessive loops stay what they are. -/
theorem givesBack_eagerly : ∀ t : Pattern, t.eagerly.givesBack = t.givesBack
  | alternation branches => allGiveBack_eagerlyAll branches
  | concatenation items => allGiveBack_eagerlyAll items
  | group kind body => congrArg (kind != .atomic && ·) (givesBack_eagerly body)
  | transformed _ _ body => givesBack_eagerly body
  | repetition _ greed body => by
    rw [eagerly, givesBack, givesBack, givesBack_eagerly body]
    cases greed <;> rfl
  | quote _ | trivia _ | atom _ | leveled _ _ | custom _ _ | empty => rfl

theorem allGiveBack_eagerlyAll : ∀ ts : List Pattern,
    allGiveBack (eagerlyAll ts) = allGiveBack ts
  | [] => rfl
  | t :: ts => congrArg₂ and (givesBack_eagerly t) (allGiveBack_eagerlyAll ts)

end

end Pattern

end GraphemeRegex
