import GraphemeRegex.Lowering.Emitter

/-! # Repetition — the code of a loop

Every loop has four parts, of which trivial bounds leave out some instructions:

```text
  required:   go to optional if the required passes are done, else count one
  pass:       [remember the position]
              the body
              go to required
  optional:   [go to exit if the body consumed nothing]
              go to exit if the optional passes are done, else count one
              eager:      save exit, go to pass
              reluctant:  save pass, go on
  exit:
```

A possessive loop also keeps one checkpoint of its own below its passes: a placeholder at first,
later the one of the last split. It is dropped whenever `optional` is reached, and a fence around
the body drops what the body has left.
-/

namespace GraphemeRegex

open Emitter

/-- The registers of a loop: one for each count that needs it, and one for the position. -/
structure LoopRegisters where
  required : Option CounterId
  optional : Option CounterId
  progress : Option MarkId
  deriving DecidableEq, Repr

namespace LoopRegisters

/-- The number of passes that an amount allows beyond the required ones, if it is limited. -/
def optionalPasses? (amount : Amount) : Option Nat :=
  amount.high?.map (· - amount.low)

/-- Allocates the registers of a loop. A count of at most one required pass needs none, nor do
optional passes without a limit; only an endless loop over a possibly empty body remembers its
position. -/
def allocate (amount : Amount) (mayBeEmpty : Bool) : Emitter LoopRegisters := do
  let required ←
    if 1 < amount.low then some <$> newCounter amount.low else pure none
  let optional ←
    match optionalPasses? amount with
    | some (passes + 1) => some <$> newCounter (passes + 1)
    | _ => pure none
  let progress ←
    if amount.high?.isNone && mayBeEmpty then some <$> newMark else pure none
  return ⟨required, optional, progress⟩

/-- Gives the registers the values with which the loop begins. -/
def reset (r : LoopRegisters) : Emitter Unit := do
  if let some counter := r.required then emit (.reset counter)
  if let some counter := r.optional then emit (.reset counter)
  if let some mark := r.progress then emit (.unmark mark)

end LoopRegisters

/-- Writes an instruction if a condition holds. -/
def emitIf (condition : Bool) (i : Instruction Label) : Emitter Unit :=
  if condition then emit i else pure ()

/-- The code of a loop with a body. -/
def emitLoop (amount : Amount) (greed : Greed) (mayBeEmpty : Bool) (body : Emitter Unit) :
    Emitter Unit := do
  let possessive := greed == .possessive
  let required ← newLabel
  let pass ← newLabel
  let optional ← newLabel
  let exit ← newLabel
  let registers ← LoopRegisters.allocate amount mayBeEmpty
  registers.reset
  emitIf possessive .savePlaceholder
  place required
  match registers.required with
  | some counter => emit (.condBranch optional counter)
  -- a single required pass is made by falling through
  | none => emitIf (amount.low == 0) (.branch optional)
  place pass
  if let some mark := registers.progress then emit (.mark mark)
  emitIf possessive .fence
  body
  emitIf possessive (.cut false)
  emitIf (1 < amount.low) (.branch required)
  place optional
  -- what a possessive loop kept of its own goes, whichever pass ends here
  emitIf possessive .clear
  if let some mark := registers.progress then emit (.checkProgress exit mark)
  match registers.optional with
  | some counter => emit (.condBranch exit counter)
  -- without a counter, no optional pass is allowed or any number of them
  | none => emitIf (LoopRegisters.optionalPasses? amount == some 0) (.branch exit)
  match greed with
  | .eager | .possessive => emit (.split pass exit)
  | .reluctant => emit (.save pass)
  place exit

end GraphemeRegex
