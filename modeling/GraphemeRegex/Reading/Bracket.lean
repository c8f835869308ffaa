import GraphemeRegex.Pattern.Equality
import GraphemeRegex.Reading.Escape

/-! # Bracketed classes — reading `[...]`

A bracketed class lists members up to its closing bracket, and a member can be a bracketed class
again. The classes that are open at a time form a stack, and one step reads one member, opens a
class or closes one; every step moves the input forward.
-/

namespace GraphemeRegex

/-- A bracketed class whose closing bracket has not been read. -/
structure OpenBracket where
  /-- The offset of the opening bracket. -/
  start : Nat
  inverted : Bool
  /-- The members so far, the latest first. -/
  members : List ClassMember
  deriving DecidableEq

namespace OpenBracket

/-- The class with one more member. -/
def push (b : OpenBracket) (m : ClassMember) : OpenBracket :=
  { b with members := m :: b.members }

/-! ## Members -/

/-- The names of the sets that POSIX defines. -/
def posixNames : List String :=
  ["alnum", "alpha", "ascii", "blank", "cntrl", "digit", "graph", "lower", "print", "punct",
   "space", "upper", "word", "xdigit"]

/-- A POSIX set; the input begins with its bracket. The case of its name does not matter. -/
def readPosix (i : Input) : Except ReadError (ClassMember × Input) := do
  let start := i.offset
  let i := i.skip 2
  let (inverted, i) :=
    match i.accept? '^' with
    | some i => (true, i)
    | none => (false, i)
  let (written, i) := i.spanWhile fun unit => unit != [':'] && unit != [']']
  match i.acceptAll? [':', ']'] with
  | none => throw (i.errorHere (.expected ":]"))
  | some i =>
    let name := written.map Char.toLower
    if posixNames.any (·.toList == name) then return (.posix name inverted, i)
    else throw (i.errorFrom (.unknownPosixName written) start)

/-- An escape or a unit that stands for itself. -/
def readAtom (i : Input) : Except ReadError (Escape × Input) :=
  match i.rest with
  | [] => .error (i.errorHere .unexpectedEnd)
  | ['\\'] :: _ => Escape.read true i
  | ['['] :: _ => .error (i.errorHere .badRange)
  | unit :: _ => .ok (.atom (.char unit), i.skip 1)

/-- Whether a hyphen comes next that makes a range; before the closing bracket it stands for
itself. -/
def atRange (i : Input) : Bool :=
  match i.rest with
  | ['-'] :: [']'] :: _ => false
  | ['-'] :: _ :: _ => true
  | _ => false

/-- A member that is not a class of its own: an atom, a range of atoms or a quote. -/
def readMember (i : Input) : Except ReadError (ClassMember × Input) := do
  let start := i.offset
  match ← readAtom i with
  | (.quote text, i) => return (.quote text, i)
  | (.atom low, i) =>
    if !atRange i then return (.atom low, i)
    match ← readAtom (i.skip 1) with
    | (.quote _, i) => throw (i.errorFrom .badRange start)
    | (.atom high, i) =>
      -- a class or a property is no end of a range
      if low.singleCharacter?.isNone || high.singleCharacter?.isNone then
        throw (i.errorFrom .badRange start)
      return (.range low high, i)

/-! ## Opening and closing -/

/-- Opens a class at a bracket that lies inside `depth` groups and classes. -/
def openAt (limit depth : Nat) (i : Input) : Except ReadError (OpenBracket × Input) := do
  let start := i.offset
  let i := i.skip 1
  if limit ≤ depth then throw (i.errorFrom (.nestedTooDeep limit) start)
  match i.accept? '^' with
  | some i => return (⟨start, true, []⟩, i)
  | none => return (⟨start, false, []⟩, i)

/-- What one step leads to: classes that are still open, the innermost apart, or the members of the
outermost class. -/
inductive Progress where
  | reading (current : OpenBracket) (outer : List OpenBracket)
  | closed (inverted : Bool) (members : List ClassMember)

/-- Reads one member, or opens or closes a class. The outermost class lies inside `depth` groups. -/
def step (limit depth : Nat) (current : OpenBracket) (outer : List OpenBracket) (i : Input) :
    Except ReadError (Progress × Input) := do
  match i.rest with
  | [] => throw (i.errorFrom (.expected "]") current.start)
  | [']'] :: _ =>
    -- a bracket right behind the opening one does not stand for itself
    if current.members.isEmpty then throw (i.errorHere .emptyClass)
    match outer with
    | [] => return (.closed current.inverted current.members.reverse, i.skip 1)
    | parent :: outer =>
      let parent := parent.push (.nested current.inverted current.members.reverse)
      return (.reading parent outer, i.skip 1)
  | ['['] :: [':'] :: _ =>
    let (m, i) ← readPosix i
    return (.reading (current.push m) outer, i)
  | ['['] :: _ =>
    let (inner, i) ← openAt limit (depth + 1 + outer.length) i
    return (.reading inner (current :: outer), i)
  | _ =>
    let (m, i) ← readMember i
    return (.reading (current.push m) outer, i)

/-- Steps until the outermost class is closed. Each step takes a unit, so that with as much fuel as
there are units the source ends first. -/
def run (limit depth : Nat) : (fuel : Nat) → OpenBracket → List OpenBracket → Input →
    Except ReadError (Pattern × Input)
  | 0, current, _, i => .error (i.errorFrom (.expected "]") current.start)
  | fuel + 1, current, outer, i => do
    match ← step limit depth current outer i with
    | (.closed inverted members, i) => return (.custom inverted members, i)
    | (.reading current outer, i) => run limit depth fuel current outer i

/-- A bracketed class inside `depth` groups; the input begins with its bracket. -/
def read (limit depth : Nat) (i : Input) : Except ReadError (Pattern × Input) := do
  let (current, i) ← openAt limit depth i
  run limit depth i.rest.length current [] i

end OpenBracket

end GraphemeRegex
