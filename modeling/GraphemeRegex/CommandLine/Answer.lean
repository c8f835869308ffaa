import GraphemeRegex.CommandLine.Arguments
import GraphemeRegex.Reading.Snippet
import GraphemeRegex.Regex

/-! # Answers — what a command writes

The answer to a request is an exit code and two texts. A request that cannot be met ends with 1, a
run that is stopped with 2. The content of a subject file is handed in, so that the answer is a
function of the request and of that content.
-/

namespace GraphemeRegex.CommandLine

/-- What a command leaves behind. -/
structure Answer where
  exitCode : Nat
  out : String
  err : String
  deriving DecidableEq, Repr

namespace Answer

/-- A command that has done its work. -/
def success (out : String) : Answer := ⟨0, out, ""⟩

/-- Ends with a message behind what was written. -/
def failure (exitCode : Nat) (out message : String) : Answer :=
  ⟨exitCode, out, "error: " ++ message ++ "\n"⟩

/-- Ends without a match behind what was written. -/
def noMatch (out : String) : Answer := ⟨1, out, "no match\n"⟩

end Answer

/-- Reads a file by its path: its text, or the reason why there is none. -/
abbrev FileReader := String → Except String Text

namespace Request

/-- The colours of the answer. -/
def palette (r : Request) : Palette := .ofBool r.colored

/-- The limits of a run. -/
def limits (r : Request) : Limits := { Limits.standard with fuel := r.fuel }

/-- The subject, or a message that says why there is none. -/
def loadSubject (r : Request) (files : FileReader) : Except String Text :=
  match r.subject with
  | .inline subject => .ok subject
  | .file path =>
    match files path with
    | .ok subject => .ok subject
    | .error reason => .error ("failed to read " ++ path ++ ": " ++ reason)
  | .missing => .error "no subject given (pass SUBJECT or --subject-file)"

/-- The answer to a pattern that cannot be read: a snippet, which no newline ends. -/
def readFailure (r : Request) (e : ReadError) : Answer :=
  ⟨1, "", e.render r.pattern r.colored⟩

/-- The compiled pattern, or the answer that it cannot be compiled. -/
def regex (r : Request) : Except Answer Regex :=
  match Regex.build r.pattern ⟨r.dialect, r.level, r.limits, defaultMaxDepth⟩ with
  | .ok regex => .ok regex
  | .error (.read e) => .error (r.readFailure e)
  | .error (.compile e) => .error (.failure 1 "" e.message)

/-- The line for a match: its range and the text that was matched. -/
def matchLine (r : Request) (start stop : Position) : String :=
  toString start.offset ++ ".." ++ toString stop.offset ++ " " ++
    r.palette.inGreen (start.textUpTo stop).quoted ++ "\n"

/-! ## The commands -/

/-- Shows the tree, with match levels where it can have them. -/
def answerAst (r : Request) : Answer :=
  match Pattern.parse r.pattern r.dialect defaultMaxDepth with
  | .error e => r.readFailure e
  | .ok pattern =>
    match pattern.withLevel r.level with
    | .ok tree => .success tree.outline
    | .error e =>
      ⟨0, pattern.outline, "warning: " ++ e.message ++ "; showing the untagged tree\n"⟩

/-- Shows the program. -/
def answerDump (r : Request) : Answer :=
  match r.regex with
  | .error answer => answer
  | .ok regex => .success (regex.program.listing r.palette)

/-- The match that a search yields: of the whole subject, or the leftmost one. -/
def search (r : Request) (regex : Regex) (subject : Text) :
    Except RunError (Option (Position × Position)) :=
  if r.whole then
    (regex.matchesWhole subject).map fun covers =>
      if covers then some (subject.start, subject.start.skip subject.length) else none
  else regex.find? subject

/-- Shows the leftmost match. -/
def answerExec (r : Request) (files : FileReader) : Answer :=
  match r.loadSubject files with
  | .error message => .failure 1 "" message
  | .ok subject =>
    match r.regex with
    | .error answer => answer
    | .ok regex =>
      match r.search regex subject with
      | .ok (some (start, stop)) => .success (r.matchLine start stop)
      | .ok none => .noMatch ""
      | .error e => .failure 2 "" e.message

/-- Shows the runs from the given positions, up to the first match, behind the text `out`. -/
def traceFrom (r : Request) (regex : Regex) (subject : Text) (out : String) :
    List Position → Answer
  | [] => .noMatch out
  | start :: later =>
    let style := TraceStyle.forProgram regex.program r.verbosity r.palette
    let (events, outcome) := (regex.machine subject false).trace regex.limits start
    let heading := r.palette.inBlue ("start @" ++ toString start.offset) ++ "\n"
    let body := String.join ((style.lines events).map (· ++ "\n"))
    let out := out ++ (if out.isEmpty then "" else "\n") ++ heading ++ body
    match outcome with
    | .ok (some stop) =>
      .success (out ++ r.palette.dimmed "---" ++ "\n" ++ r.matchLine start stop)
    | .ok none => traceFrom r regex subject out later
    | .error e => .failure 2 out e.message

/-- Shows the runs of a search. -/
def answerTrace (r : Request) (files : FileReader) : Answer :=
  match r.loadSubject files with
  | .error message => .failure 1 "" message
  | .ok subject =>
    match r.regex with
    | .error answer => answer
    | .ok regex => r.traceFrom regex subject "" (regex.startPositions subject)

/-- The answer to a request. -/
def answer (r : Request) (files : FileReader) : Answer :=
  match r.command with
  | .ast => r.answerAst
  | .dump => r.answerDump
  | .exec => r.answerExec files
  | .trace => r.answerTrace files

/-- The path of the file that the answer to a request needs, if it needs one. -/
def neededFile? (r : Request) : Option String :=
  match r.command, r.subject with
  | .exec, .file path | .trace, .file path => some path
  | _, _ => none

end Request

/-- The text of a byte sequence, or the reason why it is none. -/
def decodeText (bytes : ByteArray) : Except String Text :=
  match String.fromUTF8? bytes with
  | some s => .ok s.toList
  | none => .error "stream did not contain valid UTF-8"

end GraphemeRegex.CommandLine
