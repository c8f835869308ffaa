import GraphemeRegex.Reading.Fault
import GraphemeRegex.Text.Cluster
import GraphemeRegex.CharClass.Property

/-! # Input — what is left of a pattern text

A pattern is read cluster by cluster. An `Input` is the list of clusters still unread with the byte
offset of the first of them; reading never looks back. A cluster of one scalar can have a meaning, a
longer one only ever stands for itself.

* `Input.skip`: moving forward; every other operation moves by it.
* `Input.spanWhile`, `Input.spanUpTo`: the text of the leading units that pass a test.
* `Input.accept?`, `Input.acceptAll?`, `Input.expect`: one unit, or several, with a given spelling.
-/

namespace GraphemeRegex

/-- The unread clusters of a pattern text and the byte offset at which they start. -/
structure Input where
  offset : Nat
  rest : List Text
  deriving DecidableEq, Repr

namespace Input

/-- A pattern text before anything is read. -/
def ofText (source : Text) : Input :=
  ⟨0, source.clusters⟩

/-- The input behind its first `count` units. -/
def skip (i : Input) (count : Nat) : Input :=
  ⟨i.offset + Text.byteLength (i.rest.take count).flatten, i.rest.drop count⟩

/-- The text of the leading units that pass the test, and the input behind them. -/
def spanWhile (test : Text → Bool) (i : Input) : Text × Input :=
  let taken := i.rest.takeWhile test
  (taken.flatten, i.skip taken.length)

/-- Like `spanWhile`, but of at most `limit` units. -/
def spanUpTo (limit : Nat) (test : Text → Bool) (i : Input) : Text × Input :=
  let taken := (i.rest.take limit).takeWhile test
  (taken.flatten, i.skip taken.length)

/-- The input behind its first unit, if that is the scalar `c` alone. -/
def accept? (i : Input) (c : Char) : Option Input :=
  if i.rest.head? = some [c] then some (i.skip 1) else none

/-- The input behind the scalars of a text, if each is the next unit in its turn. -/
def acceptAll? (i : Input) : Text → Option Input
  | [] => some i
  | c :: cs => (i.accept? c).bind fun i => i.acceptAll? cs

/-- A fault of everything from `start` on that has been read. -/
def errorFrom (i : Input) (fault : ReadFault) (start : Nat) : ReadError :=
  ⟨fault, start, i.offset⟩

/-- A fault of the next unit, or of the end of the source. -/
def errorHere (i : Input) (fault : ReadFault) : ReadError :=
  ⟨fault, i.offset, (i.skip 1).offset⟩

/-- The input behind the scalar `c`, which must come next. -/
def expect (i : Input) (c : Char) : Except ReadError Input :=
  match i.accept? c with
  | some i => .ok i
  | none => .error (i.errorHere (.expected (String.singleton c)))

/-! ## Tests on units -/

/-- Whether a unit may stand in a name. -/
def isNameUnit : Text → Bool
  | [c] => Property.alphanumeric.holds c || c == '_'
  | _ => false

/-- Whether a unit is white space. -/
def isBlankUnit : Text → Bool
  | [c] => Property.whiteSpace.holds c
  | unit => unit == ['\r', '\n']

/-- A group name, which may not be empty. The construct that it belongs to begins at `start`. -/
def readName (i : Input) (start : Nat) : Except ReadError (Text × Input) :=
  match i.spanWhile isNameUnit with
  | ([], i) => .error (i.errorFrom .missingGroupName start)
  | found => .ok found

end Input

end GraphemeRegex
