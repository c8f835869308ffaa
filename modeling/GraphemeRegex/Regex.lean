import GraphemeRegex.Lowering.Compile
import GraphemeRegex.Machine.Trace
import GraphemeRegex.Reading.Parse

/-! # Regexes — patterns that are ready to match

A regex is a pattern together with its program, the level at which it matches and the limits of its
runs.

* `Regex.build`: reads and compiles a pattern.
* `Regex.find?`: the leftmost match in a subject.
* `Regex.matchesWhole`: whether the pattern can cover the whole subject.
-/

namespace GraphemeRegex

/-- The reasons for which a source does not make a regex. -/
inductive RegexError where
  | read (e : ReadError)
  | compile (e : CompileError)
  deriving DecidableEq, Repr

/-- What is said about the reason. -/
def RegexError.message : RegexError → String
  | read e => "parse error: " ++ e.message
  | compile e => e.message

/-- How a regex is built and run. -/
structure RegexOptions where
  dialect : Dialect
  level : MatchLevel
  limits : Limits
  maxDepth : Nat
  deriving DecidableEq, Repr

namespace RegexOptions

/-- The options that hold unless others are chosen. -/
def standard : RegexOptions := ⟨.traditional, .grapheme, .standard, defaultMaxDepth⟩

end RegexOptions

/-- A compiled pattern. -/
structure Regex where
  source : Text
  program : Program
  level : MatchLevel
  limits : Limits
  deriving DecidableEq, Repr

namespace Regex

/-- Reads and compiles a pattern. -/
def build (source : Text) (options : RegexOptions) : Except RegexError Regex :=
  match Pattern.parse source options.dialect options.maxDepth with
  | .error e => .error (.read e)
  | .ok pattern =>
    match pattern.compile options.level with
    | .error e => .error (.compile e)
    | .ok program => .ok ⟨source, program, options.level, options.limits⟩

/-- The machine for a subject. -/
def machine (r : Regex) (subject : Text) (acceptAtEnd : Bool) : Machine :=
  ⟨r.program, subject, acceptAtEnd⟩

/-- The positions at which a search tries to match, in order. -/
def startPositions (r : Regex) (subject : Text) : List Position :=
  r.level.startPositions subject

/-- The answer of a match that starts at a position. -/
def runAt (r : Regex) (subject : Text) (start : Position) : Outcome :=
  (r.machine subject false).run r.limits start

/-- The answer of a match that starts at an offset; where the subject has no such offset, there is
no match. -/
def matchAt (r : Regex) (subject : Text) (start : Nat) : Outcome :=
  match subject.positionAt? start with
  | some p => r.runAt subject p
  | none => .ok none

/-- Like `matchAt`, with the events of the run. -/
def traceAt (r : Regex) (subject : Text) (start : Nat) : List Event × Outcome :=
  match subject.positionAt? start with
  | some p => (r.machine subject false).trace r.limits p
  | none => ([], .ok none)

/-- The first of the given positions at which there is a match, and the position behind it. -/
def findFrom (r : Regex) (subject : Text) :
    List Position → Except RunError (Option (Position × Position))
  | [] => .ok none
  | start :: later =>
    match r.runAt subject start with
    | .error e => .error e
    | .ok (some stop) => .ok (some (start, stop))
    | .ok none => findFrom r subject later

/-- The leftmost match in a subject. -/
def find? (r : Regex) (subject : Text) : Except RunError (Option (Position × Position)) :=
  r.findFrom subject (r.startPositions subject)

/-- Whether there is a match in a subject. -/
def isMatch (r : Regex) (subject : Text) : Except RunError Bool :=
  (r.find? subject).map Option.isSome

/-- Whether some path through the pattern covers the whole subject. -/
def matchesWhole (r : Regex) (subject : Text) : Except RunError Bool :=
  ((r.machine subject true).run r.limits subject.start).map Option.isSome

end Regex

/-- The text between two positions of one subject. -/
def Position.textUpTo (start stop : Position) : Text :=
  start.rest.take (start.rest.length - stop.rest.length)

end GraphemeRegex
