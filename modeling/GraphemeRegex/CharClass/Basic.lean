import GraphemeRegex.CharClass.Property

/-! # Character classes — the built-in tests on characters

A class is a family of scalars, possibly inverted. It is put to a scalar or to a whole cluster; of a
cluster only the first scalar is looked at.
-/

namespace GraphemeRegex

/-- The families of scalars that have a spelling of their own. -/
inductive ClassKind where
  /-- Every scalar. -/
  | anyScalar
  /-- Every cluster; always consumed whole. -/
  | anyCluster
  | digit
  | hexDigit
  | whitespace
  | horizontalWhitespace
  | verticalWhitespace
  | newlineSequence
  | word
  | property (p : Property)
  deriving DecidableEq, Repr

namespace ClassKind

/-- White space that moves along a line. -/
def isHorizontalSpace (c : Char) : Bool :=
  c == ' ' || c == '\t' || c == '\u00a0' || c == '\u1680' || c == '\u180e' ||
    ('\u2000' ≤ c && c ≤ '\u200a') || c == '\u202f' || c == '\u205f' || c == '\u3000'

/-- White space that ends a line. -/
def isVerticalSpace (c : Char) : Bool :=
  c == '\n' || c == '\x0b' || c == '\x0c' || c == '\r' || c == '\u0085' || c == '\u2028' ||
    c == '\u2029'

/-- Whether a scalar belongs to the family. -/
def holds : ClassKind → Char → Bool
  | anyScalar, _ | anyCluster, _ => true
  | digit, c => Property.numeric.holds c
  | hexDigit, c => c.isDigit || ('a' ≤ c && c ≤ 'f') || ('A' ≤ c && c ≤ 'F')
  | whitespace, c => Property.whiteSpace.holds c
  | horizontalWhitespace, c => isHorizontalSpace c
  | verticalWhitespace, c | newlineSequence, c => isVerticalSpace c
  | word, c => Property.alphanumeric.holds c || c == '_'
  | property p, c => p.holds c

end ClassKind

/-- A family of scalars, or all scalars outside it. -/
structure CharClass where
  kind : ClassKind
  inverted : Bool
  deriving DecidableEq, Repr

namespace CharClass

/-- The class of every scalar. -/
def anyScalar : CharClass := ⟨.anyScalar, false⟩

/-- Whether a scalar passes the test. -/
def accepts (cls : CharClass) (c : Char) : Bool :=
  cls.kind.holds c != cls.inverted

/-- Whether a cluster passes the test, judged by its first scalar; the empty text does not. -/
def acceptsCluster (cls : CharClass) : Text → Bool
  | [] => false
  | c :: _ => cls.accepts c

/-- Whether the class consumes a whole cluster at every match level. -/
def consumesCluster (cls : CharClass) : Bool :=
  cls.kind == .anyCluster

/-- How the class is written in a pattern. -/
def spelling (cls : CharClass) : String :=
  match cls.kind, cls.inverted with
  | .anyScalar, false => "."
  | .anyScalar, true => "[^.]"
  | .anyCluster, false => "\\X"
  | .anyCluster, true => "[^\\X]"
  | .digit, false => "\\d"
  | .digit, true => "\\D"
  | .hexDigit, false => "[:xdigit:]"
  | .hexDigit, true => "[:^xdigit:]"
  | .whitespace, false => "\\s"
  | .whitespace, true => "\\S"
  | .horizontalWhitespace, false => "\\h"
  | .horizontalWhitespace, true => "\\H"
  | .verticalWhitespace, false => "\\v"
  | .verticalWhitespace, true => "\\V"
  | .newlineSequence, false => "\\R"
  | .newlineSequence, true => "\\N"
  | .word, false => "\\w"
  | .word, true => "\\W"
  | .property p, false => "\\p\x7b" ++ p.name ++ "\x7d"
  | .property p, true => "\\P\x7b" ++ p.name ++ "\x7d"

end CharClass

end GraphemeRegex
