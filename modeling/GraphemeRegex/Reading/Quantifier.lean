import GraphemeRegex.Pattern.Basic
import GraphemeRegex.Reading.Numeral

/-! # Quantifiers — the marks that repeat what stands before them

A star, a plus, a question mark, or numbers in braces give an amount, and a second mark says which
count is tried first. A brace that does not open one of the four forms `{n}`, `{n,}`, `{,m}` and
`{n,m}` is an ordinary character.
-/

namespace GraphemeRegex

/-- The digits of a bound in braces. -/
structure Bound where
  low : Text
  comma : Bool
  high : Text
  deriving DecidableEq, Repr

namespace Bound

/-- Passes over the digits in front of the units, counting on from the index of the first unit and
the number of digits so far. -/
def skipDigits : (units : List Text) → (index digits : Nat) → Nat × Nat
  | [], index, digits => (index, digits)
  | unit :: units, index, digits =>
    if Radix.decimal.isDigitUnit unit then skipDigits units (index + 1) (digits + 1)
    else (index, digits)

/-- Whether a bound comes next. The units are looked at by their index, and none is read. -/
def comesNext (i : Input) : Bool :=
  if i.rest[0]? = some ['\x7b'] then
    let (index, digits) := skipDigits (i.rest.drop 1) 1 0
    let (index, digits) :=
      if i.rest[index]? = some [','] then skipDigits (i.rest.drop (index + 1)) (index + 1) digits
      else (index, digits)
    -- braces around a comma alone are ordinary characters
    0 < digits && i.rest[index]? = some ['\x7d']
  else false

/-- Reads a bound. That it comes next is known before: the units in front of it and behind it are
taken for its braces without a look. -/
def read (i : Input) : Bound × Input :=
  let (low, i) := (i.skip 1).spanDigits .decimal
  let (comma, i) :=
    match i.accept? ',' with
    | some i => (true, i)
    | none => (false, i)
  let (high, i) := i.spanDigits .decimal
  (⟨low, comma, high⟩, i.skip 1)

/-- The amount that a bound denotes; of two numbers that do not fit the first is the fault. -/
def amount (bound : Bound) : Except ReadFault Amount := do
  match bound.low.isEmpty, bound.comma, bound.high.isEmpty with
  | false, false, _ => return .exactly (← Radix.decimal.number bound.low)
  | false, true, true => return .atLeast (← Radix.decimal.number bound.low)
  | false, true, false =>
    let low ← Radix.decimal.number bound.low
    let high ← Radix.decimal.number bound.high
    return .between low high
  | true, _, _ => return .atMost (← Radix.decimal.number bound.high)

end Bound

namespace Quantifier

/-- The amount that comes next, if any; a bound may hold a number that does not fit. -/
def readAmount? (i : Input) : Option (Except ReadFault Amount × Input) :=
  match i.rest with
  | ['*'] :: _ => some (.ok .zeroOrMore, i.skip 1)
  | ['+'] :: _ => some (.ok .oneOrMore, i.skip 1)
  | ['?'] :: _ => some (.ok .zeroOrOne, i.skip 1)
  | _ =>
    if Bound.comesNext i then
      let (bound, i) := Bound.read i
      some (bound.amount, i)
    else none

/-- The mark behind an amount that says which count is tried first. -/
def readGreed (i : Input) : Greed × Input :=
  match i.rest with
  | ['?'] :: _ => (.reluctant, i.skip 1)
  | ['+'] :: _ => (.possessive, i.skip 1)
  | _ => (.eager, i)

end Quantifier

end GraphemeRegex
