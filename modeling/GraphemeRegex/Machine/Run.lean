import GraphemeRegex.Machine.Step

/-! # Runs — steps within limits

A run may execute only so many instructions, and only so many checkpoints may be alive at a time.
The limits stop a run; they do not change what its steps do.
-/

namespace GraphemeRegex

/-- The limits of a run. -/
structure Limits where
  /-- How many instructions may be executed. -/
  fuel : Nat
  /-- How many checkpoints may be alive. -/
  checkpoints : Nat
  deriving DecidableEq, Repr

namespace Limits

/-- The limits that hold unless others are chosen. -/
def standard : Limits := ⟨1000000, 1000000⟩

end Limits

/-- The reasons for which a run ends without an answer. -/
inductive RunError where
  | fuelExhausted (limit : Nat)
  | tooManyCheckpoints (limit : Nat)
  | machine (fault : MachineFault)
  deriving DecidableEq, Repr

/-- What is said about the reason. -/
def RunError.message : RunError → String
  | fuelExhausted limit =>
    "runtime execution limit of " ++ toString limit ++ " steps exceeded"
  | tooManyCheckpoints limit =>
    "runtime checkpoint limit of " ++ toString limit ++ " exceeded"
  | machine fault => fault.message

/-- The answer of a run: the position behind the match, if there is one. -/
abbrev Outcome := Except RunError (Option Position)

namespace Machine

/-- Whether the next instruction pushes a checkpoint. -/
def pushesNext (m : Machine) (s : State) : Bool :=
  m.program.code[s.ip]?.any (·.pushes)

/-- Whether the next instruction would push a checkpoint beyond the limit. -/
def overflows (m : Machine) (limits : Limits) (s : State) : Bool :=
  m.pushesNext s && limits.checkpoints ≤ s.stack.depth

/-- Runs from a state with the fuel that is left. -/
def runFrom (m : Machine) (limits : Limits) : (fuel : Nat) → State → Outcome
  | 0, _ => .error (.fuelExhausted limits.fuel)
  | fuel + 1, s =>
    if m.overflows limits s then .error (.tooManyCheckpoints limits.checkpoints)
    else
      match m.step s with
      | .next s => runFrom m limits fuel s
      | .halt result => .ok result
      | .fault f => .error (.machine f)

/-- Runs the program at a position of the subject. -/
def run (m : Machine) (limits : Limits) (start : Position) : Outcome :=
  m.runFrom limits limits.fuel (.initial m.program start)

/-- Runs the program at an offset, which must be one of the subject. -/
def runAt (m : Machine) (limits : Limits) (start : Nat) : Outcome :=
  match m.subject.positionAt? start with
  | some p => m.run limits p
  | none => .error (.machine (.badStart start m.subject.byteLength))

end Machine

end GraphemeRegex
