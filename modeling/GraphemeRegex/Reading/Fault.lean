import GraphemeRegex.Text.Basic

/-! # Faults — what can be wrong with a pattern text

A `ReadError` names the cause and the bytes of the source that it concerns. The wording of a cause
is fixed in one place, `ReadFault.message`.
-/

namespace GraphemeRegex

/-- The radix of a number in a pattern. -/
inductive Radix where
  | octal
  | decimal
  | hex
  deriving DecidableEq, Repr

/-- The number of digits that a radix has. -/
def Radix.base : Radix → Nat
  | octal => 8
  | decimal => 10
  | hex => 16

/-- The causes for which a pattern text is refused. -/
inductive ReadFault where
  /-- The digits denote a number that does not fit. -/
  | numberOverflow (digits : Text)
  /-- An escape with a fixed number of digits has fewer. -/
  | tooFewDigits (digits : Text) (count : Nat)
  /-- Something else stands where digits of the radix belong. -/
  | notANumber (text : Text) (radix : Radix)
  /-- The given text is missing. -/
  | expected (text : String)
  | unexpectedEnd
  | notAscii (c : Char)
  | emptyClass
  | badRange
  | unknownPosixName (name : Text)
  | emptyProperty
  | missingSpecifier
  | segmentationRemoved
  | unbalancedParenthesis
  | strayQuantifier
  | nestedTooDeep (limit : Nat)
  | missingGroupName
  | removalAfterCaret
  | unknownSegmentation
  | invalidScalar (value : Nat)
  | notInClass (c : Char)
  | unknownEscape (c : Char)
  deriving DecidableEq, Repr

namespace ReadFault

/-- What is said about the cause. -/
def message : ReadFault → String
  | numberOverflow digits => "number overflow: " ++ String.ofList digits
  | tooFewDigits digits count =>
    "expected " ++ toString count ++ " digits in '" ++ String.ofList digits ++ "'"
  | notANumber text radix =>
    "expected a number in '" ++ String.ofList text ++ "'" ++
      match radix with
      | .decimal => ""
      | .octal | .hex => " of radix " ++ toString radix.base
  | expected text => "expected '" ++ text ++ "'"
  | unexpectedEnd => "unexpected end of input"
  | notAscii c => "expected ASCII for '" ++ String.singleton c ++ "'"
  | emptyClass => "expected custom character class members"
  | badRange => "invalid character class range"
  | unknownPosixName name => "invalid character set name: '" ++ String.ofList name ++ "'"
  | emptyProperty => "empty property"
  | missingSpecifier => "expected group specifier"
  | segmentationRemoved => "text segment mode cannot be unset, only changed"
  | unbalancedParenthesis => "unbalanced ')'"
  | strayQuantifier => "quantifier without operand"
  | nestedTooDeep limit => "pattern nested deeper than " ++ toString limit ++ " levels"
  | missingGroupName => "expected group name"
  | removalAfterCaret => "cannot remove options after '^'"
  | unknownSegmentation => "unknown text segment mode"
  | invalidScalar value =>
    "invalid scalar value 0x" ++ String.ofList ((Nat.toDigits 16 value).map Char.toUpper)
  | notInClass c =>
    "'\\" ++ String.singleton c ++ "' is not allowed in a custom character class"
  | unknownEscape c => "invalid escape sequence '\\" ++ String.singleton c ++ "'"

end ReadFault

/-- A fault and the range of bytes of the source that it concerns. -/
structure ReadError where
  fault : ReadFault
  first : Nat
  last : Nat
  deriving DecidableEq, Repr

namespace ReadError

/-- What is said about the fault. -/
def message (e : ReadError) : String :=
  e.fault.message

end ReadError

end GraphemeRegex
