import GraphemeRegex.Text.Basic
import GraphemeRegex.Unicode.Alphabetic
import GraphemeRegex.Unicode.Blank
import GraphemeRegex.Unicode.LetterCase
import GraphemeRegex.Unicode.Numeric

/-! # Properties — the properties of scalars that a pattern can name

Each property has a canonical name and some other spellings. A name is looked up loosely: the case
of ASCII letters does not matter, nor do spaces, hyphens and underscores.
-/

namespace GraphemeRegex

/-- A property of scalars. -/
inductive Property where
  | any
  | alphabetic
  | lowercase
  | uppercase
  | numeric
  | alphanumeric
  | whiteSpace
  | control
  | ascii
  deriving DecidableEq, Repr

namespace Property

/-- Whether a scalar has the property. -/
def holds : Property → Char → Bool
  | any, _ => true
  | alphabetic, c => Unicode.alphabetic.contains c
  | lowercase, c => Unicode.lowercase.contains c
  | uppercase, c => Unicode.uppercase.contains c
  | numeric, c => Unicode.numeric.contains c
  | alphanumeric, c => Unicode.alphabetic.contains c || Unicode.numeric.contains c
  | whiteSpace, c => Unicode.whiteSpace.contains c
  | control, c => Unicode.control.contains c
  | ascii, c => c.toNat < 0x80

/-- The canonical name. -/
def name : Property → String
  | any => "Any"
  | alphabetic => "Alphabetic"
  | lowercase => "Lowercase"
  | uppercase => "Uppercase"
  | numeric => "Numeric"
  | alphanumeric => "Alphanumeric"
  | whiteSpace => "White_Space"
  | control => "Control"
  | ascii => "ASCII"

/-- Every spelling that names a property, in the form that loose look-up compares. -/
def spellings : List (String × Property) :=
  [("any", any),
   ("l", alphabetic), ("letter", alphabetic), ("alpha", alphabetic), ("alphabetic", alphabetic),
   ("ll", lowercase), ("lower", lowercase), ("lowercase", lowercase),
   ("lowercaseletter", lowercase),
   ("lu", uppercase), ("upper", uppercase), ("uppercase", uppercase),
   ("uppercaseletter", uppercase),
   ("n", numeric), ("number", numeric), ("numeric", numeric),
   ("alnum", alphanumeric), ("alphanumeric", alphanumeric),
   ("space", whiteSpace), ("wspace", whiteSpace), ("whitespace", whiteSpace),
   ("cc", control), ("cntrl", control), ("control", control),
   ("ascii", ascii)]

/-- A name without what loose look-up ignores. -/
def looseKey (name : Text) : Text :=
  (name.filter fun c => c != '_' && c != '-' && c != ' ').map Char.toLower

/-- The property that a name stands for. -/
def ofName? (name : Text) : Option Property :=
  (spellings.find? fun entry => entry.1.toList == looseKey name).map Prod.snd

end Property

end GraphemeRegex
