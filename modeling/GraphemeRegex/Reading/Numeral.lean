import GraphemeRegex.Reading.Input

/-! # Numerals — digits and the numbers they denote

Numbers in a pattern have 32 bits. Digits beyond that range are a fault that keeps them as written.
-/

namespace GraphemeRegex

namespace Radix

/-- The value of a digit, if it is one in this radix. -/
def digit? (radix : Radix) (c : Char) : Option Nat :=
  let value? :=
    if '0' ≤ c ∧ c ≤ '9' then some (c.toNat - '0'.toNat)
    else if 'a' ≤ c ∧ c ≤ 'z' then some (c.toNat - 'a'.toNat + 10)
    else if 'A' ≤ c ∧ c ≤ 'Z' then some (c.toNat - 'A'.toNat + 10)
    else none
  value?.filter (· < radix.base)

/-- Whether a scalar is a digit. -/
def isDigit (radix : Radix) (c : Char) : Bool :=
  (radix.digit? c).isSome

/-- Whether a unit is a digit. -/
def isDigitUnit (radix : Radix) : Text → Bool
  | [c] => radix.isDigit c
  | _ => false

/-- The number that a text of digits denotes, the most significant digit first. -/
def value (radix : Radix) (digits : Text) : Nat :=
  digits.foldl (fun n c => n * radix.base + (radix.digit? c).getD 0) 0

/-- The number that a text of digits denotes, if there are digits and it fits. -/
def number (radix : Radix) (digits : Text) : Except ReadFault Nat :=
  if digits.isEmpty then .error (.notANumber digits radix)
  else if radix.value digits < 0x100000000 then .ok (radix.value digits)
  else .error (.numberOverflow digits)

end Radix

namespace Input

/-- The digits that come next. -/
def spanDigits (radix : Radix) (i : Input) : Text × Input :=
  i.spanWhile radix.isDigitUnit

/-- Turns a fault into an error of everything read from `start` on. -/
def locate {α : Type} (i : Input) (start : Nat) : Except ReadFault α → Except ReadError α
  | .ok a => .ok a
  | .error fault => .error (i.errorFrom fault start)

end Input

/-- The scalar with the given code point. -/
def scalarOfValue (value : Nat) : Except ReadFault Char :=
  if value.isValidChar then .ok (Char.ofNat value) else .error (.invalidScalar value)

/-- The scalar whose code point is written in digits. -/
def Radix.scalar (radix : Radix) (digits : Text) : Except ReadFault Char :=
  radix.number digits >>= scalarOfValue

end GraphemeRegex
