import GraphemeRegex.Program.Basic

/-! # Builders — programs in the making

Code is written from front to back. A jump goes to a label, which is made before it is used and
placed once, in front of the instruction that comes next; placing may come after use. Assembling
replaces labels by the places they were given.

* `Builder.place`, `Builder.emit`: refuse labels and registers that the builder did not make.
* `Builder.assemble`: refuses code with a label that was never placed.
-/

namespace GraphemeRegex

/-- A jump target of a program in the making. -/
structure Label where
  index : Nat
  deriving DecidableEq, Repr

/-- How a label is written before it has a place. -/
def Label.spelling (a : Label) : String := addressSpelling a.index

/-! ## Misuse -/

/-- The ways in which a builder can be misused. -/
inductive BuilderFault where
  | alreadyPlaced (label : Label) (place : Nat)
  | neverPlaced (label : Label)
  | unknownLabel (label : Label)
  | unknownCounter (counter : CounterId)
  | unknownMark (mark : MarkId)
  deriving DecidableEq, Repr

namespace BuilderFault

/-- What is said about the misuse. -/
def message : BuilderFault → String
  | alreadyPlaced label place =>
    "ProgramBuilder: address " ++ label.spelling ++ " already placed at instruction " ++
      toString place
  | neverPlaced label =>
    "ProgramBuilder: address " ++ label.spelling ++ " was never placed (missing label call)"
  | unknownLabel label =>
    "ProgramBuilder: address " ++ label.spelling ++ " was not made by this builder"
  | unknownCounter counter =>
    "ProgramBuilder: register " ++ counter.spelling ++ " was not made by this builder"
  | unknownMark mark =>
    "ProgramBuilder: register " ++ mark.spelling ++ " was not made by this builder"

end BuilderFault

/-! ## Building -/

/-- A program in the making. -/
structure Builder where
  code : Array (Instruction Label)
  /-- Where each label was placed. -/
  labels : Array (Option Nat)
  /-- The initial value of each counter. -/
  counters : Array Nat
  /-- The number of marks. -/
  marks : Nat
  strings : StringTable
  deriving DecidableEq, Repr

namespace Builder

/-- Nothing written yet. -/
def empty : Builder := ⟨#[], #[], #[], 0, .empty⟩

/-- The number of different register numbers; numbers start again from zero behind the last. -/
def registerLimit : Nat := 0x10000

/-- Makes a label. -/
def newLabel (b : Builder) : Label × Builder :=
  (⟨b.labels.size⟩, { b with labels := b.labels.push none })

/-- Makes a counter that starts with the given value. -/
def newCounter (b : Builder) (initial : Nat) : CounterId × Builder :=
  (⟨b.counters.size % registerLimit⟩, { b with counters := b.counters.push initial })

/-- Makes a mark. -/
def newMark (b : Builder) : MarkId × Builder :=
  (⟨b.marks % registerLimit⟩, { b with marks := b.marks + 1 })

/-- The number of a constant text. -/
def intern (b : Builder) (text : Text) : StringId × Builder :=
  let (id, strings) := b.strings.intern text
  (id, { b with strings })

/-- Places a label in front of the next instruction. -/
def place (b : Builder) (label : Label) : Except BuilderFault Builder :=
  match b.labels[label.index]? with
  | none => .error (.unknownLabel label)
  | some (some place) => .error (.alreadyPlaced label place)
  -- a label has at most one place
  | some none => .ok { b with labels := b.labels.setIfInBounds label.index (some b.code.size) }

/-- Refuses a label that the builder did not make. -/
def checkLabel (b : Builder) (label : Label) : Except BuilderFault Unit :=
  if label.index < b.labels.size then .ok () else .error (.unknownLabel label)

/-- Refuses a counter that the builder did not make. -/
def checkCounter (b : Builder) (counter : CounterId) : Except BuilderFault Unit :=
  if counter.index < b.counters.size then .ok () else .error (.unknownCounter counter)

/-- Refuses a mark that the builder did not make. -/
def checkMark (b : Builder) (mark : MarkId) : Except BuilderFault Unit :=
  if mark.index < b.marks then .ok () else .error (.unknownMark mark)

/-- Refuses operands that the builder did not make. -/
def checkOperands (b : Builder) : Instruction Label → Except BuilderFault Unit
  | .save a | .branch a => b.checkLabel a
  | .condBranch a counter => do
    b.checkLabel a
    b.checkCounter counter
  | .split target resume => do
    b.checkLabel target
    b.checkLabel resume
  | .reset counter => b.checkCounter counter
  | .mark mark | .unmark mark => b.checkMark mark
  | .checkProgress a mark => do
    b.checkLabel a
    b.checkMark mark
  | .advance _ | .matchText _ _ | .matchString _ _ | .consume _ _ | .savePlaceholder | .clear
  | .fence | .cut _ | .fail | .accept => .ok ()

/-- Appends an instruction. -/
def emit (b : Builder) (i : Instruction Label) : Except BuilderFault Builder := do
  b.checkOperands i
  return { b with code := b.code.push i }

/-- Appends the instruction that consumes a constant text. -/
def emitString (b : Builder) (text : Text) (level : MatchLevel) : Builder :=
  let (id, b) := b.intern text
  { b with code := b.code.push (.matchString id level) }

/-! ## Assembling -/

/-- The place of a label. -/
def resolve (b : Builder) (label : Label) : Except BuilderFault Nat :=
  match b.labels[label.index]? with
  | some (some place) => .ok place
  | _ => .error (.neverPlaced label)

/-- The finished program. -/
def assemble (b : Builder) : Except BuilderFault Program := do
  let code ← b.code.mapM fun i => i.mapTargetsM b.resolve
  return ⟨code, b.strings, b.counters, b.marks⟩

end Builder

end GraphemeRegex
