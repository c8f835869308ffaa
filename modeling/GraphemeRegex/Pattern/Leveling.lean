import GraphemeRegex.Pattern.Outline

/-! # Leveling — giving every class of a pattern a match level

Leveling rebuilds a tree so that each built-in class says at which level it is tested; the rest of
the tree stays as it is. Bracketed classes cannot be leveled.
-/

namespace GraphemeRegex

/-- A construct that cannot be handled, by its tag. -/
structure Unsupported where
  construct : String
  deriving DecidableEq, Repr

namespace Unsupported

/-- What is said about the construct. -/
def message (e : Unsupported) : String :=
  "unsupported construct: " ++ e.construct

end Unsupported

namespace Pattern

mutual

/-- The tree with every class tested at the given level, or the leftmost bracketed class. -/
def withLevel (level : MatchLevel) : Pattern → Except Unsupported Pattern
  | alternation branches => do return alternation (← withLevelAll level branches)
  | concatenation items => do return concatenation (← withLevelAll level items)
  | group kind body => do return group kind (← withLevel level body)
  | transformed transform kind body => do return transformed transform kind (← withLevel level body)
  | repetition amount greed body => do return repetition amount greed (← withLevel level body)
  | leveled cls _ => .ok (leveled cls (some level))
  | atom (.cls cls) => .ok (leveled cls (some level))
  | atom a => .ok (atom a)
  | custom inverted _ => .error ⟨customTag inverted⟩
  | quote text => .ok (quote text)
  | trivia text => .ok (trivia text)
  | empty => .ok empty

/-- Every tree of a list with the given level, or the leftmost bracketed class. -/
def withLevelAll (level : MatchLevel) : List Pattern → Except Unsupported (List Pattern)
  | [] => .ok []
  | p :: ps => do
    let p' ← withLevel level p
    let ps' ← withLevelAll level ps
    return p' :: ps'

end

end Pattern

end GraphemeRegex
