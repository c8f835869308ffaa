import GraphemeRegex.Pattern.Group
import GraphemeRegex.Reading.Input

/-! # Openings — what stands between a parenthesis and the body of its group

An opening names the kind of a group. Two openings have no body of their own: a comment, which ends
with its parenthesis, and a change of options for the rest of the enclosing sequence.
-/

namespace GraphemeRegex

/-- What a parenthesis opens. -/
inductive Opening where
  | comment (text : Text)
  /-- A group, whose body follows. -/
  | group (kind : GroupKind)
  /-- A change of options that runs to the end of the enclosing sequence. -/
  | scope (change : OptionSequence)
  deriving DecidableEq, Repr

namespace Opening

/-! ## Options -/

/-- The option that comes next, if any. -/
def readOption? (i : Input) : Except ReadError (Option (MatchOption × Input)) := do
  match i.rest with
  -- the longer spelling goes first
  | ['x'] :: ['x'] :: _ => return some (.extraExtended, i.skip 2)
  | ['x'] :: _ => return some (.extended, i.skip 1)
  | ['y'] :: _ =>
    let i ← (i.skip 1).expect '\x7b'
    let (option, i) ←
      match i.rest with
      | ['g'] :: _ => .ok (.graphemeSegments, i.skip 1)
      | ['w'] :: _ => .ok (.wordSegments, i.skip 1)
      | _ => .error (i.errorHere .unknownSegmentation)
    let i ← i.expect '\x7d'
    return some (option, i)
  | [c] :: _ => return (MatchOption.ofLetter? c).map (·, i.skip 1)
  | _ => return none

/-- The options that come next. Each takes a unit, so `fuel` need not exceed their number. -/
def readOptions (removing : Bool) : (fuel : Nat) → Input →
    Except ReadError (List MatchOption × Input)
  | 0, i => .ok ([], i)
  | fuel + 1, i => do
    match ← readOption? i with
    | none => return ([], i)
    | some (option, next) =>
      if removing && option.isSegmentation then
        throw (next.errorFrom .segmentationRemoved i.offset)
      let (options, i) ← readOptions removing fuel next
      return (option :: options, i)

/-- The options behind a hyphen, which do not go with a caret. -/
def readRemoved (caret : Bool) (i : Input) : Except ReadError (List MatchOption × Input) := do
  match i.accept? '-' with
  | none => return ([], i)
  | some next =>
    if caret then throw (i.errorHere .removalAfterCaret)
    readOptions true next.rest.length next

/-- A change of options for a body or for the rest of the sequence. -/
def readChange (start : Nat) (i : Input) : Except ReadError (Opening × Input) := do
  let (caret, i) :=
    match i.accept? '^' with
    | some i => (true, i)
    | none => (false, i)
  let (adding, i) ← readOptions false i.rest.length i
  let (removing, i) ← readRemoved caret i
  -- a caret alone is a change, too
  if !caret && adding.isEmpty && removing.isEmpty then
    throw (i.errorFrom .missingSpecifier start)
  let change := ⟨caret, adding, removing⟩
  match i.rest with
  | [':'] :: _ => return (.group (.options change false), i.skip 1)
  | [')'] :: _ => return (.scope change, i.skip 1)
  | _ => throw (i.errorHere (.expected ":"))

/-! ## Specifiers -/

/-- The kind of a group that is named by one mark. -/
def kind? : Char → Option GroupKind
  | ':' => some .nonCapture
  | '|' => some .branchReset
  | '>' => some .atomic
  | '=' => some .lookahead
  | '!' => some .negativeLookahead
  | '*' => some .nonAtomicLookahead
  | _ => none

/-- A named capture, up to the mark that closes its name. -/
def readNamed (close : Char) (start : Nat) (i : Input) : Except ReadError (Opening × Input) := do
  let (name, i) ← i.readName start
  let i ← i.expect close
  return (.group (.named name), i)

/-- What follows the question mark of an opening. -/
def readSpecifier (start : Nat) (i : Input) : Except ReadError (Opening × Input) := do
  match i.rest with
  | ['<'] :: ['='] :: _ => return (.group .lookbehind, i.skip 2)
  | ['<'] :: ['!'] :: _ => return (.group .negativeLookbehind, i.skip 2)
  | ['<'] :: ['*'] :: _ => return (.group .nonAtomicLookbehind, i.skip 2)
  | ['<'] :: _ => readNamed '>' start (i.skip 1)
  | ['\x27'] :: _ => readNamed '\x27' start (i.skip 1)
  | ['P'] :: ['<'] :: _ => readNamed '>' start (i.skip 2)
  | ['#'] :: _ =>
    let (text, i) := (i.skip 1).spanWhile (· != [')'])
    match i.accept? ')' with
    | some i => return (.comment text, i)
    | none => throw (i.errorFrom (.expected ")") start)
  | [c] :: _ =>
    match kind? c with
    | some kind => return (.group kind, i.skip 1)
    | none => readChange start i
  | _ => readChange start i

/-- An opening; the input begins with its parenthesis. -/
def read (i : Input) : Except ReadError (Opening × Input) := do
  let start := i.offset
  let i := i.skip 1
  match i.rest with
  | ['?'] :: _ => readSpecifier start (i.skip 1)
  | ['*'] :: _ =>
    let i := i.skip 1
    match i.acceptAll? "sr:".toList, i.acceptAll? "asr:".toList with
    | some i, _ => return (.group .scriptRun, i)
    | none, some i => return (.group .atomicScriptRun, i)
    | none, none => throw (i.errorFrom .missingSpecifier start)
  | _ => return (.group .capture, i)

end Opening

end GraphemeRegex
