import GraphemeRegex.Machine.Run
import GraphemeRegex.Program.Listing

/-! # Traces — what a run does, for reading

Each step of a run has events: the instruction and what came of it. A traced run collects them
beside its answer, and a trace style turns them into lines.

* `Machine.events`: the events of one step, read off the state before it.
* `Machine.trace`: the events of a run and its answer.
* `TraceStyle.lines`: the lines of those events that the style shows.
-/

namespace GraphemeRegex

/-! ## Events -/

/-- Something that happens in a run. -/
inductive Event where
  /-- An instruction is about to be executed at an offset. -/
  | instruction (ip : Nat) (i : Instruction Nat) (offset : Nat)
  | consumed (text : Text)
  /-- What stands at the offset did not match. -/
  | failed (offset : Nat)
  /-- A checkpoint was pushed onto a stack that now has the given height. -/
  | pushed (c : Checkpoint) (depth : Nat)
  | resumed (ip offset : Nat)
  /-- Checkpoints above a fence were dropped. -/
  | dropped (count offset : Nat)
  | accepted (offset : Nat)
  | noMatch
  deriving DecidableEq, Repr

namespace State

/-- The event of backtracking. -/
def backtrackEvent (s : State) : Event :=
  match s.stack.unwind with
  | some (saved, _) => .resumed saved.ip saved.pos.offset
  | none => .noMatch

/-- The events of rejecting what stands at the position. -/
def rejectEvents (s : State) : List Event :=
  [.failed s.pos.offset, s.backtrackEvent]

/-- The event of pushing a checkpoint. -/
def pushEvents (s : State) (c : Checkpoint) : List Event :=
  [.pushed c (s.push c).stack.depth]

/-- The events of consuming. -/
def consumeEvents (s : State) : Option (Text × Position) → List Event
  | some (text, _) => [.consumed text]
  | none => s.rejectEvents

/-- The events of a cut. -/
def cutEvents (s : State) (rewind : Bool) : List Event :=
  match s.stack.cut? with
  | none => []
  | some (pos, stack) =>
    [.dropped (s.stack.depth - stack.depth - 1) (if rewind then pos else s.pos).offset]

end State

namespace Machine

/-- The event of an instruction that is about to be executed. -/
def fetchEvents (m : Machine) (s : State) : List Event :=
  (m.program.code[s.ip]?.map fun i => Event.instruction s.ip i s.pos.offset).toList

/-- The events of what an instruction does. -/
def effectEvents (m : Machine) (s : State) (i : Instruction Nat) : List Event :=
  match i with
  | .advance _ | .matchText _ _ | .consume _ _ => s.consumeEvents (i.consumes? m s.pos)
  | .matchString string _ =>
    if string.index < m.program.strings.size then s.consumeEvents (i.consumes? m s.pos) else []
  | .save resume | .split _ resume => s.pushEvents (s.resumeAt resume)
  | .savePlaceholder => s.pushEvents (.placeholder s.toSnapshot)
  | .fence => s.pushEvents (.fence s.toSnapshot)
  | .cut rewind => s.cutEvents rewind
  | .fail => [s.backtrackEvent]
  | .accept => if m.acceptsAt s.pos then [.accepted s.pos.offset] else s.rejectEvents
  | .branch _ | .condBranch _ _ | .clear | .reset _ | .mark _ | .unmark _ | .checkProgress _ _ => []

/-- The events of one step. -/
def events (m : Machine) (s : State) : List Event :=
  m.fetchEvents s ++ ((m.program.code[s.ip]?.map (m.effectEvents s)).getD [])

/-- Runs from a state like `runFrom`, adding the events to those `seen` before. -/
def traceFrom (m : Machine) (limits : Limits) : (fuel : Nat) → State → (seen : Array Event) →
    Array Event × Outcome
  | 0, _, seen => (seen, .error (.fuelExhausted limits.fuel))
  | fuel + 1, s, seen =>
    if m.overflows limits s then
      -- the instruction is shown, but nothing comes of it
      (seen ++ m.fetchEvents s, .error (.tooManyCheckpoints limits.checkpoints))
    else
      let seen := seen ++ m.events s
      match m.step s with
      | .next s => traceFrom m limits fuel s seen
      | .halt result => (seen, .ok result)
      | .fault f => (seen, .error (.machine f))

/-- Runs the program at a position of the subject and collects the events. -/
def trace (m : Machine) (limits : Limits) (start : Position) : List Event × Outcome :=
  let (events, outcome) := m.traceFrom limits limits.fuel (.initial m.program start) #[]
  (events.toList, outcome)

/-- Runs the program at an offset, which must be one of the subject, and collects the events. -/
def traceAt (m : Machine) (limits : Limits) (start : Nat) : List Event × Outcome :=
  match m.subject.positionAt? start with
  | some p => m.trace limits p
  | none => ([], .error (.machine (.badStart start m.subject.byteLength)))

end Machine

/-! ## Lines -/

/-- How much of a trace is shown. -/
inductive Verbosity where
  /-- Instructions, consumed text, backtracking and the outcome. -/
  | standard
  /-- Also checkpoints and cuts. -/
  | verbose
  /-- Also the position at every instruction. -/
  | veryVerbose
  deriving DecidableEq, Repr

/-- The verbosity that is asked for by asking `count` times. -/
def Verbosity.ofCount : (count : Nat) → Verbosity
  | 0 => standard
  | 1 => verbose
  | _ => veryVerbose

/-- How a trace is written. -/
structure TraceStyle where
  verbosity : Verbosity
  palette : Palette
  /-- The number of digits of an index. -/
  width : Nat
  deriving DecidableEq, Repr

namespace TraceStyle

/-- The style for a program. -/
def forProgram (p : Program) (verbosity : Verbosity) (palette : Palette) : TraceStyle :=
  ⟨verbosity, palette, indexWidth p.size⟩

/-- An offset. -/
def offset (t : TraceStyle) (n : Nat) : String :=
  t.palette.dimmed ("@" ++ toString n)

/-- A line that begins with the index of an instruction. -/
def mainLine (t : TraceStyle) (ip : Nat) (symbol content : String) : String :=
  "  " ++ t.palette.dimmed (paddedIndex t.width ip) ++ " " ++ symbol ++ " " ++ content

/-- A line that stands under an instruction. -/
def subLine (t : TraceStyle) (symbol content : String) : String :=
  String.ofList (List.replicate (2 + t.width + 1) ' ') ++ symbol ++ " " ++ content

/-- What kind of checkpoint was pushed. -/
def checkpointName : Checkpoint → String
  | .resume saved => "resume " ++ addressSpelling saved.ip
  | .placeholder _ => "placeholder"
  | .fence _ => "fence"

/-- Whether an event is shown. -/
def shows (t : TraceStyle) : Event → Bool
  | .pushed _ _ | .dropped _ _ => t.verbosity != .standard
  | _ => true

/-- The line of an event. -/
def line (t : TraceStyle) : Event → String
  | .instruction ip i offset =>
    let place := if t.verbosity == .veryVerbose then "  " ++ t.offset offset else ""
    t.mainLine ip " " (i.spelling ++ place)
  | .consumed text => t.subLine "●" (t.palette.inGreen text.quoted)
  | .failed offset => t.subLine (t.palette.inRed "○") (t.offset offset)
  | .pushed c depth =>
    t.subLine "+" (checkpointName c ++ " (depth " ++ toString depth ++ ")")
  | .resumed ip offset => t.mainLine ip (t.palette.inRed "❮❮❮") (t.offset offset)
  | .dropped count offset =>
    t.subLine "✂" ("dropped " ++ toString count ++ ", " ++ t.offset offset)
  | .accepted offset => t.subLine "◼" (t.offset offset)
  | .noMatch => t.subLine "◼" (t.palette.inRed "no match")

/-- The lines of the events that are shown. -/
def lines (t : TraceStyle) (events : List Event) : List String :=
  (events.filter t.shows).map t.line

end TraceStyle

end GraphemeRegex
