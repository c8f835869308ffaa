import GraphemeRegex.Machine.State

/-! # Steps — what one instruction does

`Machine.step` is a total function on states: it leads to another state, ends the run with or
without a match, or finds that the program is not well formed. It knows nothing of limits and of
tracing.

* `Instruction.consumes?`: what the consuming instructions take from the subject.
* `Machine.execute`, `Machine.step`: one instruction, and the one that comes next.
-/

namespace GraphemeRegex

/-! ## Consuming -/

namespace Position

/-- The text of the next `count` clusters and the position behind them, behind what was already
`taken`. -/
def nextClusters? (taken : Text) : (count : Nat) → Position → Option (Text × Position)
  | 0, p => some (taken, p)
  | count + 1, p =>
    match p.nextCluster? with
    | none => none
    | some (cluster, q) => nextClusters? (taken ++ cluster) count q

/-- A text, if it comes next: as one whole cluster, or scalar by scalar. -/
def matchText? (p : Position) (text : Text) : MatchLevel → Option (Text × Position)
  | .grapheme => p.nextCluster?.filter (·.1 = text)
  | .scalar => (p.after? text).map (text, ·)

/-- A constant text, if it comes next; at the grapheme level it must end between two clusters of the
subject. -/
def matchString? (subject : Text) (p : Position) (text : Text) :
    MatchLevel → Option (Text × Position)
  | .grapheme => (p.after? text).bind fun q =>
    if subject.isBoundary q.offset then some (text, q) else none
  | .scalar => (p.after? text).map (text, ·)

/-- The next unit, if the class accepts it. -/
def consume? (p : Position) (cls : CharClass) (level : MatchLevel) : Option (Text × Position) :=
  -- some classes take a whole cluster at either level
  if level == .grapheme || cls.consumesCluster then
    p.nextCluster?.filter (cls.acceptsCluster ·.1)
  else
    (p.nextScalar?.filter (cls.accepts ·.1)).map fun (c, q) => ([c], q)

end Position

/-! ## Steps -/

/-- The ways in which a program can turn out not to be well formed. -/
inductive MachineFault where
  /-- A run was to start inside a scalar or behind the end of its subject. -/
  | badStart (start length : Nat)
  | ranOffEnd (ip size : Nat)
  | nothingToClear (ip : Nat)
  | cutWithoutFence (ip : Nat)
  | unknownString (string : StringId) (count : Nat)
  | unknownCounter (counter : CounterId) (count : Nat)
  | unknownMark (mark : MarkId) (count : Nat)
  deriving DecidableEq, Repr

namespace MachineFault

/-- What is said about the fault. -/
def message : MachineFault → String
  | badStart start length =>
    "VM: start offset " ++ toString start ++ " is not a char boundary of a " ++ toString length ++
      "-byte subject"
  | ranOffEnd ip size =>
    "VM: ran off the end of the program at " ++ addressSpelling ip ++ " (" ++ toString size ++
      " instructions)"
  | nothingToClear ip =>
    "VM: clear at " ++ addressSpelling ip ++ " with no checkpoint to drop"
  | cutWithoutFence ip => "VM: cut at " ++ addressSpelling ip ++ " without a matching fence"
  | unknownString string count =>
    "Program: string " ++ string.spelling ++ " out of range (" ++ toString count ++ " strings)"
  | unknownCounter counter count =>
    "VM: register " ++ counter.spelling ++ " out of range (" ++ toString count ++ " registers)"
  | unknownMark mark count =>
    "VM: register " ++ mark.spelling ++ " out of range (" ++ toString count ++ " registers)"

end MachineFault

/-- What a step leads to. -/
inductive Step where
  | next (s : State)
  /-- The run ends, with the position behind the match if there is one. -/
  | halt (result : Option Position)
  | fault (f : MachineFault)

/-- A program together with the subject that it runs on. -/
structure Machine where
  program : Program
  subject : Text
  /-- Only a match that ends where the subject ends is accepted. -/
  acceptAtEnd : Bool
  deriving DecidableEq, Repr

namespace State

/-- Resumes from the latest checkpoint to resume from, or ends the run without a match. -/
def backtrack (s : State) : Step :=
  match s.stack.unwind with
  | some (saved, stack) => .next { saved with stack }
  | none => .halt none

/-- Moves on behind what was consumed; backtracks if there was nothing to consume. -/
def afterConsuming (s : State) : Option (Text × Position) → Step
  | some (_, q) => .next { s with pos := q, ip := s.ip + 1 }
  | none => s.backtrack

/-- Jumps if a counter is zero, and decrements it otherwise. -/
def countDown (s : State) (target : Nat) (counter : CounterId) : Step :=
  match s.counters[counter.index]? with
  | none => .fault (.unknownCounter counter s.counters.size)
  | some 0 => .next (s.jump target)
  | some (n + 1) =>
    .next { s.next with counters := s.counters.setIfInBounds counter.index n }

/-- Sets a mark to an offset, or to none. -/
def setMark (s : State) (mark : MarkId) (value : Option Nat) : Step :=
  if mark.index < s.marks.size then
    .next { s.next with marks := s.marks.setIfInBounds mark.index value }
  else .fault (.unknownMark mark s.marks.size)

/-- Jumps if the position is the one that a mark remembers. -/
def checkProgress (s : State) (target : Nat) (mark : MarkId) : Step :=
  match s.marks[mark.index]? with
  | none => .fault (.unknownMark mark s.marks.size)
  | some value => .next (if value = some s.pos.offset then s.jump target else s.next)

/-- Drops the latest checkpoint. -/
def clear (s : State) : Step :=
  match s.stack.pop? with
  | none => .fault (.nothingToClear s.ip)
  | some stack => .next { s.next with stack }

/-- Drops the checkpoints down to the latest fence, and goes back to its position if `rewind` is
set. -/
def cut (s : State) (rewind : Bool) : Step :=
  match s.stack.cut? with
  | none => .fault (.cutWithoutFence s.ip)
  | some (pos, stack) => .next { s.next with pos := if rewind then pos else s.pos, stack }

end State

/-- What a consuming instruction takes at a position; nothing for the other instructions. -/
def Instruction.consumes? (i : Instruction Nat) (m : Machine) (p : Position) :
    Option (Text × Position) :=
  match i with
  | .advance count => Position.nextClusters? [] count p
  | .matchText text level => p.matchText? text level
  | .matchString string level =>
    (m.program.strings.get? string).bind (p.matchString? m.subject · level)
  | .consume cls level => p.consume? cls level
  | _ => none

namespace Machine

/-- Whether a match that ends at a position is accepted. -/
def acceptsAt (m : Machine) (p : Position) : Bool :=
  !m.acceptAtEnd || p.offset == m.subject.byteLength

/-- Gives a counter its initial value. -/
def resetCounter (m : Machine) (s : State) (counter : CounterId) : Step :=
  match m.program.counters[counter.index]? with
  | none => .fault (.unknownCounter counter m.program.counters.size)
  | some initial =>
    .next { s.next with counters := s.counters.setIfInBounds counter.index initial }

/-- What an instruction does. -/
def execute (m : Machine) (s : State) (i : Instruction Nat) : Step :=
  match i with
  | .advance _ | .matchText _ _ | .consume _ _ => s.afterConsuming (i.consumes? m s.pos)
  | .matchString string _ =>
    -- a text that is not in the program is a fault, not a failure to match
    if string.index < m.program.strings.size then s.afterConsuming (i.consumes? m s.pos)
    else .fault (.unknownString string m.program.strings.size)
  | .save resume => .next (s.push (s.resumeAt resume)).next
  | .savePlaceholder => .next (s.push (.placeholder s.toSnapshot)).next
  | .branch target => .next (s.jump target)
  | .condBranch target counter => s.countDown target counter
  | .split target resume => .next ((s.push (s.resumeAt resume)).jump target)
  | .clear => s.clear
  | .reset counter => m.resetCounter s counter
  | .mark mark => s.setMark mark (some s.pos.offset)
  | .unmark mark => s.setMark mark none
  | .checkProgress target mark => s.checkProgress target mark
  | .fence => .next (s.push (.fence s.toSnapshot)).next
  | .cut rewind => s.cut rewind
  | .fail => s.backtrack
  | .accept => if m.acceptsAt s.pos then .halt (some s.pos) else s.backtrack

/-- One step of a run. -/
def step (m : Machine) (s : State) : Step :=
  match m.program.code[s.ip]? with
  | none => .fault (.ranOffEnd s.ip m.program.size)
  | some i => m.execute s i

end Machine

end GraphemeRegex
