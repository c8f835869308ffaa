import GraphemeRegex.Machine.Trace
import GraphemeRegex.Reading.Parse

/-! # Arguments — what a command line asks for

A command line names a command, a pattern and perhaps a subject. Every command takes the same
options, in any order between the names, so that a line can be turned into another by changing the
command alone. An option may stand only once, except the one that raises the verbosity; two
hyphens end the options.
-/

namespace GraphemeRegex.CommandLine

/-- What is to be done with a pattern. -/
inductive Command where
  /-- Show its tree. -/
  | ast
  /-- Show its program. -/
  | dump
  /-- Find its leftmost match in a subject. -/
  | exec
  /-- Show the runs of a search. -/
  | trace
  deriving DecidableEq, Repr

namespace Command

/-- The command with the given name. -/
def ofName? : String → Option Command
  | "ast" => some ast
  | "dump" => some dump
  | "exec" => some exec
  | "trace" => some trace
  | _ => none

end Command

/-! ## Options -/

/-- An option that takes a value. -/
inductive ValueOption where
  | subjectFile
  | dialect
  | level
  | color
  | fuel
  deriving DecidableEq, Repr

namespace ValueOption

/-- The option with the given long name, without its hyphens. -/
def ofLongName? : String → Option ValueOption
  | "subject-file" => some subjectFile
  | "syntax" => some dialect
  | "level" => some level
  | "color" => some color
  | "fuel" => some fuel
  | _ => none

end ValueOption

/-- What has been read of a command line; what is absent was not given. -/
structure Arguments where
  pattern : Option String
  subject : Option String
  subjectFile : Option String
  dialect : Option Dialect
  level : Option MatchLevel
  colored : Option Bool
  fuel : Option Nat
  whole : Bool
  verbosity : Nat
  deriving DecidableEq, Repr

namespace Arguments

/-- Nothing given yet. -/
def empty : Arguments := ⟨none, none, none, none, none, none, none, false, 0⟩

/-- Fills a field that has no value yet. -/
def once {α : Type} (current : Option α) (value : Option α) : Option (Option α) :=
  if current.isSome then none else value.map some

/-- The number that a fuel option gives: an integer in decimal digits, perhaps signed, that 32 bits
can hold. -/
def readFuel (value : String) : Option Nat :=
  let (negative, digits) :=
    match value.toList with
    | '-' :: digits => (true, digits)
    | '+' :: digits => (false, digits)
    | digits => (false, digits)
  if digits.isEmpty || !digits.all Radix.decimal.isDigit then none
  else
    let n := Radix.decimal.value digits
    if n < 0x100000000 && (!negative || n == 0) then some n else none

/-- The dialect with the given name. -/
def readDialect : String → Option Dialect
  | "traditional" => some .traditional
  | "experimental" => some .experimental
  | _ => none

/-- The match level with the given name. -/
def readLevel : String → Option MatchLevel
  | "grapheme" => some .grapheme
  | "scalar" => some .scalar
  | _ => none

/-- Whether output is coloured; without a terminal, colours are used only if asked for. -/
def readColor : String → Option Bool
  | "always" => some true
  | "auto" | "never" => some false
  | _ => none

/-- The path of a file may not be empty. -/
def readPath (value : String) : Option String :=
  if value.isEmpty then none else some value

/-- Gives an option its value. -/
def setValue (a : Arguments) (option : ValueOption) (value : String) : Option Arguments :=
  match option with
  | .subjectFile =>
    (once a.subjectFile (readPath value)).map fun subjectFile => { a with subjectFile }
  | .dialect => (once a.dialect (readDialect value)).map fun dialect => { a with dialect }
  | .level => (once a.level (readLevel value)).map fun level => { a with level }
  | .color => (once a.colored (readColor value)).map fun colored => { a with colored }
  | .fuel => (once a.fuel (readFuel value)).map fun fuel => { a with fuel }

/-- Asks for a match of the whole subject. -/
def setWhole (a : Arguments) : Option Arguments :=
  if a.whole then none else some { a with whole := true }

/-- Takes in a name: the pattern, then the subject. -/
def addName (a : Arguments) (name : String) : Option Arguments :=
  if a.pattern.isNone then some { a with pattern := some name }
  else if a.subject.isNone then some { a with subject := some name }
  else none

/-! ## Words -/

/-- What a word of a command line leads to. -/
inductive Progress where
  | done (a : Arguments)
  /-- The next word is the value of an option. -/
  | needsValue (a : Arguments) (option : ValueOption)

/-- An option with a long name, perhaps with its value behind an equals sign. -/
def readLong (a : Arguments) (word : List Char) : Option Progress :=
  let name := String.ofList (word.takeWhile (· != '='))
  let value? :=
    match word.dropWhile (· != '=') with
    | [] => none
    | _ :: value => some (String.ofList value)
  match ValueOption.ofLongName? name, value? with
  | some option, some value => (a.setValue option value).map .done
  | some option, none => some (.needsValue a option)
  | none, none => if name == "whole" then a.setWhole.map .done else none
  | none, some _ => none

/-- Options with short names, written together; the file option takes what follows as its value. -/
def readShort (a : Arguments) : List Char → Option Progress
  | [] => some (.done a)
  | 'v' :: rest => readShort { a with verbosity := a.verbosity + 1 } rest
  | ['f'] => some (.needsValue a .subjectFile)
  | 'f' :: '=' :: value => (a.setValue .subjectFile (String.ofList value)).map .done
  | 'f' :: value => (a.setValue .subjectFile (String.ofList value)).map .done
  | _ => none

/-- Takes in names only, as behind two hyphens. -/
def readNames (a : Arguments) (words : List String) : Option Arguments :=
  words.foldlM addName a

/-- Takes in the words of a command line behind the command. A value that is awaited may not look
like an option, but a single hyphen is a value. -/
def readWords (a : Arguments) : (pending : Option ValueOption) → List String → Option Arguments
  | none, [] => some a
  | some _, [] => none
  | pending, word :: words =>
    match word.toList, pending with
    | ['-', '-'], none => a.readNames words
    | '-' :: '-' :: rest, none => continue? (a.readLong rest) words
    | '-' :: c :: rest, none => continue? (a.readShort (c :: rest)) words
    | '-' :: _ :: _, some _ => none
    | _, some option => (a.setValue option word).bind fun a => readWords a none words
    | _, none => (a.addName word).bind fun a => readWords a none words
where
  continue? (progress : Option Progress) (words : List String) : Option Arguments :=
    match progress with
    | none => none
    | some (.done a) => readWords a none words
    | some (.needsValue a option) => readWords a (some option) words

end Arguments

/-! ## Requests -/

/-- Where the subject comes from. -/
inductive SubjectSource where
  | inline (subject : Text)
  | file (path : String)
  | missing
  deriving DecidableEq, Repr

/-- A command line that makes sense. -/
structure Request where
  command : Command
  pattern : Text
  subject : SubjectSource
  dialect : Dialect
  level : MatchLevel
  colored : Bool
  fuel : Nat
  whole : Bool
  verbosity : Verbosity
  deriving DecidableEq, Repr

namespace Request

/-- The request that arguments make; a subject may be given in one way only. -/
def ofArguments? (command : Command) (a : Arguments) : Option Request := do
  let pattern ← a.pattern
  let subject ←
    match a.subject, a.subjectFile with
    | some _, some _ => none
    | some subject, none => some (.inline subject.toList)
    | none, some path => some (.file path)
    | none, none => some .missing
  return {
    command
    pattern := pattern.toList
    subject
    dialect := a.dialect.getD .traditional
    level := a.level.getD .grapheme
    colored := a.colored.getD false
    fuel := a.fuel.getD Limits.standard.fuel
    whole := a.whole
    verbosity := .ofCount a.verbosity }

/-- The request that the words of a command line make, if they make sense. -/
def ofWords? : List String → Option Request
  | [] => none
  | name :: words => do
    let command ← Command.ofName? name
    let arguments ← Arguments.empty.readWords none words
    ofArguments? command arguments

end Request

end GraphemeRegex.CommandLine
