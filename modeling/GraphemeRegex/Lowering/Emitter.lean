import GraphemeRegex.Pattern.Leveling
import GraphemeRegex.Program.Builder

/-! # Emitters — actions that write code

An emitter writes to a builder and can stop, because of a construct that has no code or because the
builder refuses an instruction.
-/

namespace GraphemeRegex

/-- The reasons for which a pattern has no program. -/
inductive CompileError where
  | unsupported (e : Unsupported)
  /-- The code was not well formed. -/
  | builder (fault : BuilderFault)
  deriving DecidableEq, Repr

/-- What is said about the reason. -/
def CompileError.message : CompileError → String
  | unsupported e => e.message
  | builder fault => fault.message

/-- An action that writes code. -/
abbrev Emitter := StateT Builder (Except CompileError)

namespace Emitter

/-- An action of the builder that has a result and cannot be refused. -/
def make {α : Type} (f : Builder → α × Builder) : Emitter α := fun b => .ok (f b)

/-- An action of the builder that can be refused. -/
def write (f : Builder → Except BuilderFault Builder) : Emitter Unit := fun b =>
  match f b with
  | .ok b => .ok ((), b)
  | .error fault => .error (.builder fault)

def newLabel : Emitter Label := make Builder.newLabel

def newCounter (initial : Nat) : Emitter CounterId := make (·.newCounter initial)

def newMark : Emitter MarkId := make Builder.newMark

def place (label : Label) : Emitter Unit := write (·.place label)

def emit (i : Instruction Label) : Emitter Unit := write (·.emit i)

def emitString (text : Text) (level : MatchLevel) : Emitter Unit :=
  make fun b => ((), b.emitString text level)

/-- Stops at a construct that has no code. -/
def refuse (construct : String) : Emitter Unit := fun _ =>
  .error (.unsupported ⟨construct⟩)

/-- The program that an emitter writes into an empty builder. -/
def program (e : Emitter Unit) : Except CompileError Program := do
  let ((), b) ← e.run .empty
  match b.assemble with
  | .ok p => .ok p
  | .error fault => .error (.builder fault)

end Emitter

end GraphemeRegex
