import GraphemeRegex.Text.Cluster

/-! # Match levels — what counts as one character

A pattern is matched cluster by cluster or scalar by scalar. The level fixes the units into which a
subject falls and the positions from which a match may start.
-/

namespace GraphemeRegex

/-- The granularity of matching. -/
inductive MatchLevel where
  | grapheme
  | scalar
  deriving DecidableEq, Repr

namespace MatchLevel

/-- The name of the level. -/
def name : MatchLevel → String
  | grapheme => "grapheme"
  | scalar => "scalar"

/-- The units of a text at a level. -/
def units : MatchLevel → Text → List Text
  | grapheme, text => text.clusters
  | scalar, text => text.map ([·])

/-- The positions from which a match may start: before each unit and at the end. -/
def startPositions (level : MatchLevel) (text : Text) : List Position :=
  text.start.along (level.units text)

end MatchLevel

/-- The next unit at a level and the position behind it. -/
def Position.nextUnit? (p : Position) : MatchLevel → Option (Text × Position)
  | .grapheme => p.nextCluster?
  | .scalar => p.nextScalar?.map fun (c, q) => ([c], q)

end GraphemeRegex
