/-! # Palettes — terminal colours for listings and traces

A palette gives the escape sequences that switch the colours of a terminal. The plain palette holds
empty texts, so that coloured and plain output are written by the same functions.
-/

namespace GraphemeRegex

/-- The sequences for headings, literal text, failures and details, and the one that ends them. -/
structure Palette where
  blue : String
  green : String
  red : String
  dim : String
  reset : String
  deriving DecidableEq, Repr

namespace Palette

/-- No colours at all. -/
def plain : Palette := ⟨"", "", "", "", ""⟩

/-- The standard colours, which read well on light and dark grounds. -/
def ansi : Palette := ⟨"\x1b[34m", "\x1b[32m", "\x1b[31m", "\x1b[2m", "\x1b[0m"⟩

/-- The standard colours if they are wanted. -/
def ofBool (wanted : Bool) : Palette :=
  if wanted then ansi else plain

/-- A text in blue. -/
def inBlue (p : Palette) (s : String) : String := p.blue ++ s ++ p.reset

/-- A text in green. -/
def inGreen (p : Palette) (s : String) : String := p.green ++ s ++ p.reset

/-- A text in red. -/
def inRed (p : Palette) (s : String) : String := p.red ++ s ++ p.reset

/-- A text that steps back behind the others. -/
def dimmed (p : Palette) (s : String) : String := p.dim ++ s ++ p.reset

end Palette

end GraphemeRegex
