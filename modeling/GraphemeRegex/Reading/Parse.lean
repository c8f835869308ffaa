import GraphemeRegex.Reading.Bracket
import GraphemeRegex.Reading.Opening
import GraphemeRegex.Reading.Quantifier

/-! # Parsing — from a pattern text to its tree

Reading is one pass over the units of the source. What has been read between two parentheses is a
`GroupBody`; the groups that are still open form a stack of `OpenGroup`s, each holding the body
around it. One step reads an operand, a quantifier or a mark that ends a branch or a group; every
step moves the input forward.

* `GroupBody.toPattern`: the tree of one body, with the scopes of isolated options.
* `Pattern.parse`: the tree of a source, or the first fault in it.
-/

namespace GraphemeRegex

/-! ## Dialects -/

/-- The choices that a dialect of the pattern language makes. -/
structure Dialect where
  /-- White space that is not escaped means nothing. -/
  blanksAreTrivia : Bool
  /-- A text between double quotes stands for itself. -/
  quotedLiterals : Bool
  deriving DecidableEq, Repr

namespace Dialect

/-- The dialect in which blanks and double quotes are ordinary characters. -/
def traditional : Dialect := ⟨false, false⟩

/-- The dialect that allows layout and quoted texts. -/
def experimental : Dialect := ⟨true, true⟩

end Dialect

/-- How deep groups and bracketed classes may be nested, unless another limit is chosen. -/
def defaultMaxDepth : Nat := 256

/-! ## Bodies -/

/-- An item of a branch while it is being read. -/
inductive Piece where
  /-- A node; a quantifier may follow it unless it is layout. -/
  | node (p : Pattern) (quantifiable : Bool)
  /-- Options that take effect on all pieces after them. -/
  | scope (change : OptionSequence)
  deriving DecidableEq

/-- The items that pieces, the latest first, make together with the `later` items. -/
def Piece.assemble (pieces : List Piece) (later : List Pattern) : List Pattern :=
  pieces.foldl (fun later piece =>
    match piece with
    | .node p _ => p :: later
    -- a scope takes in everything behind it
    | .scope change => [.group (.options change true) (.ofItems later)]) later

/-- What has been read between two parentheses. -/
structure GroupBody where
  /-- The finished branches, the latest first. -/
  branches : List Pattern
  /-- The pieces of the current branch, the latest first. -/
  pieces : List Piece
  deriving DecidableEq

namespace GroupBody

/-- Nothing read yet. -/
def start : GroupBody := ⟨[], []⟩

/-- Adds a piece to the current branch. -/
def push (b : GroupBody) (piece : Piece) : GroupBody :=
  { b with pieces := piece :: b.pieces }

/-- The tree of the current branch. -/
def branch (b : GroupBody) : Pattern :=
  .ofItems (Piece.assemble b.pieces [])

/-- Ends the current branch and starts another. -/
def nextBranch (b : GroupBody) : GroupBody :=
  ⟨b.branch :: b.branches, []⟩

/-- The tree of all branches; a single one stands for itself. -/
def toPattern (b : GroupBody) : Pattern :=
  match b.branches with
  | [] => b.branch
  | branches => .alternation (b.branch :: branches).reverse

end GroupBody

/-- A group whose closing parenthesis has not been read. -/
structure OpenGroup where
  /-- The offset of the opening parenthesis. -/
  start : Nat
  kind : GroupKind
  /-- What was read before it. -/
  outer : GroupBody
  deriving DecidableEq

/-- What has been read of a source. -/
structure Reading where
  current : GroupBody
  groups : List OpenGroup
  deriving DecidableEq

namespace Reading

/-- Adds a piece to the innermost open group. -/
def push (r : Reading) (piece : Piece) : Reading :=
  { r with current := r.current.push piece }

/-- Adds an operand that a quantifier may follow. -/
def operand (r : Reading) (p : Pattern) : Reading :=
  r.push (.node p true)

/-! ## Steps -/

/-- Closes the innermost group at a parenthesis. -/
def closeGroup (r : Reading) (i : Input) : Except ReadError (Reading × Input) :=
  match r.groups with
  | [] => .error (i.errorHere .unbalancedParenthesis)
  | g :: groups =>
    .ok (⟨g.outer.push (.node (.group g.kind r.current.toPattern) true), groups⟩, i.skip 1)

/-- Repeats the last operand, which must be there, by the amount that was found at `i`. -/
def quantify (r : Reading) (i : Input) (amount : Except ReadFault Amount) (next : Input) :
    Except ReadError (Reading × Input) := do
  match r.current.pieces with
  | .node p true :: pieces =>
    -- that there is an operand is checked before the numbers of the amount are
    let amount ← next.locate i.offset amount
    let (greed, next) := Quantifier.readGreed next
    return (⟨⟨r.current.branches, .node (.repetition amount greed p) true :: pieces⟩, r.groups⟩,
      next)
  | _ => throw (i.errorHere .strayQuantifier)

/-- Opens a group, or takes in a comment or a change of options. -/
def openGroup (limit : Nat) (r : Reading) (i : Input) : Except ReadError (Reading × Input) := do
  match ← Opening.read i with
  | (.comment text, next) => return (r.operand (.trivia text), next)
  | (.scope change, next) => return (r.push (.scope change), next)
  | (.group kind, next) =>
    if limit ≤ r.groups.length then throw (next.errorFrom (.nestedTooDeep limit) i.offset)
    return (⟨.start, ⟨i.offset, kind, r.current⟩ :: r.groups⟩, next)

/-- A text between double quotes. -/
def readLiteral (i : Input) : Except ReadError (Pattern × Input) :=
  let (text, next) := (i.skip 1).spanWhile (· != ['"'])
  match next.accept? '"' with
  | some next => .ok (.quote text, next)
  | none => .error (next.errorFrom (.expected "\"") i.offset)

/-- Adds the operand that begins with `unit`, the next unit of the input. -/
def readOperand (dialect : Dialect) (limit : Nat) (r : Reading) (unit : Text) (i : Input) :
    Except ReadError (Reading × Input) := do
  match unit with
  | ['('] => openGroup limit r i
  | ['['] =>
    let (p, next) ← OpenBracket.read limit r.groups.length i
    return (r.operand p, next)
  | ['\\'] =>
    match ← Escape.read false i with
    | (.atom a, next) => return (r.operand (.atom a), next)
    | (.quote text, next) => return (r.operand (.quote text), next)
  | ['.'] => return (r.operand (.atom .any), i.skip 1)
  | ['^'] => return (r.operand (.atom (.anchor .startOfLine)), i.skip 1)
  | ['$'] => return (r.operand (.atom (.anchor .endOfLine)), i.skip 1)
  | _ =>
    if dialect.quotedLiterals && unit == ['"'] then
      let (p, next) ← readLiteral i
      return (r.operand p, next)
    else return (r.operand (.atom (.char unit)), i.skip 1)

/-- Reads what begins with `unit`, the next unit of the input. -/
def step (dialect : Dialect) (limit : Nat) (r : Reading) (unit : Text) (i : Input) :
    Except ReadError (Reading × Input) :=
  if unit = ['|'] then .ok ({ r with current := r.current.nextBranch }, i.skip 1)
  else if unit = [')'] then r.closeGroup i
  else if dialect.blanksAreTrivia && Input.isBlankUnit unit then
    let (text, next) := i.spanWhile Input.isBlankUnit
    .ok (r.push (.node (.trivia text) false), next)
  else
    -- a brace that is no quantifier falls through to the operands
    match Quantifier.readAmount? i with
    | some (amount, next) => r.quantify i amount next
    | none => readOperand dialect limit r unit i

/-- The tree of a source that has been read; every group must be closed. -/
def finish (r : Reading) (i : Input) : Except ReadError Pattern :=
  match r.groups with
  | [] => .ok r.current.toPattern
  | g :: _ => .error (i.errorFrom (.expected ")") g.start)

/-- Steps to the end of the source. Each step takes a unit, so that with as much fuel as there are
units nothing is left in the end. -/
def run (dialect : Dialect) (limit : Nat) : (fuel : Nat) → Reading → Input →
    Except ReadError Pattern
  | 0, r, i => r.finish i
  | fuel + 1, r, i =>
    match i.rest with
    | [] => r.finish i
    | unit :: _ => do
      let (r, i) ← step dialect limit r unit i
      run dialect limit fuel r i

end Reading

/-- The tree that a source stands for, or the first fault in it. Groups and bracketed classes may be
nested `limit` deep. -/
def Pattern.parse (source : Text) (dialect : Dialect) (limit : Nat) : Except ReadError Pattern :=
  let i := Input.ofText source
  Reading.run dialect limit i.rest.length ⟨.start, []⟩ i

end GraphemeRegex
