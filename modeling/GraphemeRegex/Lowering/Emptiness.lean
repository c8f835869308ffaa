import GraphemeRegex.Pattern.Basic

/-! # Emptiness — patterns that may succeed without consuming anything

The answer errs on the side of "may": assertions and references to groups count as possibly empty.
-/

namespace GraphemeRegex

/-- Whether a group only looks at what is around it. -/
def GroupKind.looksAround : GroupKind → Bool
  | lookahead | negativeLookahead | nonAtomicLookahead | lookbehind | negativeLookbehind
  | nonAtomicLookbehind => true
  | _ => false

/-- Whether an atom may match without consuming anything. -/
def Atom.mayBeEmpty : Atom → Bool
  | anchor _ | backreference _ => true
  | char _ | scalar _ | any | cls _ | property _ _ => false

namespace Pattern

mutual

/-- Whether a pattern may match without consuming anything. -/
def mayBeEmpty : Pattern → Bool
  | alternation branches => anyMayBeEmpty branches
  | concatenation items => allMayBeEmpty items
  | group kind body => kind.looksAround || mayBeEmpty body
  | transformed _ kind body => kind.looksAround || mayBeEmpty body
  | repetition amount _ body =>
    -- bounds in the wrong order leave out the loop
    amount.low == 0 || amount.high?.any (· < amount.low) || mayBeEmpty body
  | quote text => text.isEmpty
  | trivia _ => true
  | empty => true
  | atom a => a.mayBeEmpty
  | leveled _ _ => false
  | custom _ _ => false

/-- Whether one of the patterns may be empty. -/
def anyMayBeEmpty : List Pattern → Bool
  | [] => false
  | p :: ps => mayBeEmpty p || anyMayBeEmpty ps

/-- Whether all of the patterns may be empty. -/
def allMayBeEmpty : List Pattern → Bool
  | [] => true
  | p :: ps => mayBeEmpty p && allMayBeEmpty ps

end

end Pattern

end GraphemeRegex
