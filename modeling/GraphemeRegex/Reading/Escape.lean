import GraphemeRegex.Pattern.Basic
import GraphemeRegex.Reading.Numeral

/-! # Escapes — what a backslash introduces

An escape stands for a class, a control character, a scalar given by number, a property, an
anchor, a reference to a group, or a quoted text. Anchors and references have no meaning inside a
bracketed class. Any other ASCII letter or digit behind a backslash is refused, and everything
else stands for itself.
-/

namespace GraphemeRegex

/-- What an escape stands for. -/
inductive Escape where
  | atom (a : Atom)
  | quote (text : Text)
  deriving DecidableEq, Repr

namespace Escape

/-! ## Letters with a fixed meaning -/

/-- The class that a letter stands for. -/
def class? : Char → Option CharClass
  | 'd' => some ⟨.digit, false⟩
  | 'D' => some ⟨.digit, true⟩
  | 'w' => some ⟨.word, false⟩
  | 'W' => some ⟨.word, true⟩
  | 's' => some ⟨.whitespace, false⟩
  | 'S' => some ⟨.whitespace, true⟩
  | 'h' => some ⟨.horizontalWhitespace, false⟩
  | 'H' => some ⟨.horizontalWhitespace, true⟩
  | 'v' => some ⟨.verticalWhitespace, false⟩
  | 'V' => some ⟨.verticalWhitespace, true⟩
  | 'R' => some ⟨.newlineSequence, false⟩
  | 'N' => some ⟨.newlineSequence, true⟩
  | 'X' => some ⟨.anyCluster, false⟩
  | _ => none

/-- The control character that a letter stands for. -/
def control? : Char → Option Char
  | 'n' => some '\n'
  | 't' => some '\t'
  | 'r' => some '\r'
  | 'f' => some '\x0c'
  | 'e' => some '\x1b'
  | 'a' => some '\x07'
  | _ => none

/-- The anchor that a letter stands for. -/
def anchor? : Char → Option Anchor
  | 'A' => some .startOfSubject
  | 'z' => some .endOfSubject
  | 'Z' => some .endOfSubjectBeforeNewline
  | 'b' => some .wordBoundary
  | 'B' => some .notWordBoundary
  | 'G' => some .firstMatchingPosition
  | _ => none

/-- Whether a letter introduces an anchor or a reference. -/
def isPlaceLetter (c : Char) : Bool :=
  (anchor? c).isSome || c == 'k' || c == 'g' || ('1' ≤ c && c ≤ '9')

/-! ## Scalars by number -/

/-- A scalar given by exactly `count` digits. -/
def readFixed (radix : Radix) (count start : Nat) (i : Input) :
    Except ReadError (Char × Input) := do
  let (digits, i) := i.spanUpTo count radix.isDigitUnit
  if digits.length < count then
    throw (i.errorFrom (.tooFewDigits digits count) start)
  let c ← i.locate start (radix.scalar digits)
  return (c, i)

/-- Scalars with the property White_Space removed from both ends. -/
def trim (text : Text) : Text :=
  ((text.dropWhile Property.whiteSpace.holds).reverse.dropWhile Property.whiteSpace.holds).reverse

/-- A scalar given by digits up to a closing brace, which may have blanks around them. The opening
brace has been read. -/
def readBraced (radix : Radix) (start : Nat) (i : Input) : Except ReadError (Char × Input) := do
  let (text, i) := i.spanWhile (· != ['\x7d'])
  let i ← i.expect '\x7d'
  let digits := trim text
  if digits.isEmpty || !digits.all radix.isDigit then
    throw (i.errorFrom (.notANumber text radix) start)
  let c ← i.locate start (radix.scalar digits)
  return (c, i)

/-- A scalar given by hexadecimal digits, in braces or exactly `count` of them. -/
def readHex (count start : Nat) (i : Input) : Except ReadError (Char × Input) :=
  match i.accept? '\x7b' with
  | some i => readBraced .hex start i
  | none => readFixed .hex count start i

/-- A scalar given by at most two octal digits behind a zero. -/
def readOctal (start : Nat) (i : Input) : Except ReadError (Char × Input) := do
  let (digits, i) := i.spanUpTo 2 Radix.octal.isDigitUnit
  -- the zero alone is the scalar with number zero
  if digits.isEmpty then return ('\x00', i)
  let c ← i.locate start (Radix.octal.scalar digits)
  return (c, i)

/-- The control character that belongs to the next unit, an ASCII one. -/
def readControl (start : Nat) (i : Input) : Except ReadError (Char × Input) :=
  match i.rest with
  | [] => .error (i.errorFrom .unexpectedEnd start)
  | unit :: _ =>
    let i := i.skip 1
    match unit.single?.filter (·.toNat < 0x80) with
    -- a letter and its control character differ in this bit
    | some c => .ok (Char.ofNat (c.toUpper.toNat ^^^ 0x40), i)
    | none => .error (i.errorFrom (.notAscii (unit.headD '\x00')) start)

/-! ## Properties, references and quotes -/

/-- The name of a property: the text between braces, or the next unit. -/
def readPropertyName (start : Nat) (i : Input) : Except ReadError (Text × Input) := do
  match i.accept? '\x7b' with
  | some i =>
    let (name, i) := i.spanWhile (· != ['\x7d'])
    let i ← i.expect '\x7d'
    return (name, i)
  | none =>
    match i.rest with
    | [] => throw (i.errorFrom .unexpectedEnd start)
    | unit :: _ => return (unit, i.skip 1)

/-- The atom for a property by its name; a name that is not known is kept. -/
def propertyAtom (name : Text) (inverted : Bool) : Atom :=
  match Property.ofName? name with
  | some p => .cls ⟨.property p, inverted⟩
  | none => .property name inverted

/-- A property, inverted once more by a leading caret. -/
def readProperty (inverted : Bool) (start : Nat) (i : Input) :
    Except ReadError (Atom × Input) := do
  let (written, i) ← readPropertyName start i
  let (name, inverted) :=
    match written with
    | '^' :: rest => (trim rest, !inverted)
    | _ => (trim written, inverted)
  if name.isEmpty then throw (i.errorFrom .emptyProperty start)
  return (propertyAtom name inverted, i)

/-- A reference by name, between angles, braces or apostrophes. -/
def readNamedReference (start : Nat) (i : Input) : Except ReadError (Reference × Input) := do
  let close ←
    match i.rest with
    | ['<'] :: _ => .ok '>'
    | ['\x7b'] :: _ => .ok '\x7d'
    | ['\x27'] :: _ => .ok '\x27'
    | _ => .error (i.errorHere (.expected "<"))
  let (name, i) ← (i.skip 1).readName start
  let i ← i.expect close
  return (.named name, i)

/-- The number of a relative reference, whose magnitude has 31 bits. -/
def relativeNumber (negative : Bool) (digits : Text) : Except ReadFault Int := do
  let n ← Radix.decimal.number digits
  if n < 0x80000000 then return (if negative then -(n : Int) else n)
  else throw (.numberOverflow digits)

/-- A reference by signed number, by number or, within braces, by name. -/
def readReferenceBody (braced : Bool) (start : Nat) (i : Input) :
    Except ReadError (Reference × Input) := do
  match i.rest with
  | ['-'] :: _ | ['+'] :: _ =>
    let negative := i.rest.head? == some ['-']
    let (digits, i) := (i.skip 1).spanDigits .decimal
    let n ← i.locate start (relativeNumber negative digits)
    return (.relative n, i)
  | unit :: _ =>
    if Radix.decimal.isDigitUnit unit then
      let (digits, i) := i.spanDigits .decimal
      let n ← i.locate start (Radix.decimal.number digits)
      return (.absolute n, i)
    else readOther
  | [] => readOther
where
  readOther := do
    if braced then
      let (name, i) ← i.readName start
      return (.named name, i)
    else throw (i.errorHere (.expected "\x7b"))

/-- A reference that may stand in braces. -/
def readReference (start : Nat) (i : Input) : Except ReadError (Reference × Input) := do
  match i.accept? '\x7b' with
  | some i =>
    let (reference, i) ← readReferenceBody true start i
    let i ← i.expect '\x7d'
    return (reference, i)
  | none => readReferenceBody false start i

/-- The units before the mark that ends a quote. -/
def beforeQuoteEnd : List Text → List Text
  | [] => []
  | ['\\'] :: ['E'] :: _ => []
  | unit :: rest => unit :: beforeQuoteEnd rest

/-- The text of a quote, which ends at its mark or with the source. -/
def readQuote (i : Input) : Text × Input :=
  let body := beforeQuoteEnd i.rest
  let i := i.skip body.length
  (body.flatten, (i.acceptAll? ['\\', 'E']).getD i)

/-! ## All escapes -/

/-- A reference by number; the digits begin with the letter of the escape. -/
def readBackreference (start : Nat) (i : Input) : Except ReadError (Reference × Input) := do
  let (digits, i) := i.spanDigits .decimal
  let n ← i.locate start (Radix.decimal.number digits)
  return (.absolute n, i)

/-- An escape that asserts a place or refers to a group; `i` begins with its letter. -/
def readPlace (c : Char) (start : Nat) (i : Input) : Except ReadError (Atom × Input) := do
  match anchor? c with
  | some a => return (.anchor a, i.skip 1)
  | none =>
    let (reference, i) ←
      match c with
      | 'k' => readNamedReference start (i.skip 1)
      | 'g' => readReference start (i.skip 1)
      | _ => readBackreference start i
    return (.backreference reference, i)

/-- The atom of an escape with the letter `c`; `i` begins with that letter. -/
def readAtom (inClass : Bool) (c : Char) (start : Nat) (i : Input) :
    Except ReadError (Atom × Input) := do
  let next := i.skip 1
  if let some cls := class? c then
    return (.cls cls, next)
  if let some s := control? c then
    return (.scalar s, next)
  -- in a class there is no place to assert, so the letter means a backspace
  if inClass && c == 'b' then
    return (.scalar '\x08', next)
  if isPlaceLetter c then
    if inClass then throw (next.errorFrom (.notInClass c) start)
    else return ← readPlace c start i
  match c with
  | '0' => scalar (readOctal start next)
  | 'x' => scalar (readHex 2 start next)
  | 'u' => scalar (readHex 4 start next)
  | 'U' => scalar (readFixed .hex 8 start next)
  | 'o' => scalar (next.expect '\x7b' >>= readBraced .octal start)
  | 'c' => scalar (readControl start next)
  | 'p' => readProperty false start next
  | 'P' => readProperty true start next
  | _ =>
    if c.isAlphanum then throw (next.errorFrom (.unknownEscape c) start)
    else return (.char [c], next)
where
  scalar (found : Except ReadError (Char × Input)) : Except ReadError (Atom × Input) := do
    let (c, i) ← found
    return (.scalar c, i)

/-- An escape; the input begins with its backslash. -/
def read (inClass : Bool) (i : Input) : Except ReadError (Escape × Input) := do
  let start := i.offset
  let i := i.skip 1
  match i.rest with
  | [] => throw (i.errorFrom .unexpectedEnd start)
  | ['Q'] :: _ =>
    let (text, i) := readQuote (i.skip 1)
    return (.quote text, i)
  | [c] :: _ =>
    let (a, i) ← readAtom inClass c start i
    return (.atom a, i)
  | unit :: _ => return (.atom (.char unit), i.skip 1)

end Escape

end GraphemeRegex
