import GraphemeRegex.Program.StringTable

/-! # Programs — code with its constants and registers

A program is what the machine runs: instructions whose jump targets are indices, the constant texts
they refer to, the value with which each counter starts, and the number of marks.
-/

namespace GraphemeRegex

/-- A program for the matching machine. -/
structure Program where
  code : Array (Instruction Nat)
  strings : StringTable
  /-- The initial value of each counter. -/
  counters : Array Nat
  /-- The number of marks; they are unset in the beginning. -/
  marks : Nat
  deriving DecidableEq, Repr

namespace Program

/-- The number of instructions. -/
def size (p : Program) : Nat := p.code.size

/-- The number of instructions that push a checkpoint. -/
def pushCount (p : Program) : Nat := p.code.countP (·.pushes)

end Program

end GraphemeRegex
