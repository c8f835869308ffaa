import GraphemeRegex.CharClass.Basic
import GraphemeRegex.MatchLevel
import GraphemeRegex.Text.Quoted

/-! # Instructions — what the matching machine can be told to do

Every instruction goes on to the next one unless it jumps, fails or accepts. The type of jump
targets is left open: while a program is being built they are labels, afterwards they are indices
of instructions.
-/

namespace GraphemeRegex

/-- The number of a counter, a register that holds how many passes are left. -/
structure CounterId where
  index : Nat
  deriving DecidableEq, Repr

/-- The number of a mark, a register that holds an offset or nothing. -/
structure MarkId where
  index : Nat
  deriving DecidableEq, Repr

/-- The number of a constant text. -/
structure StringId where
  index : Nat
  deriving DecidableEq, Repr

/-- An instruction with jump targets of type `α`. -/
inductive Instruction (α : Type) where
  /-- Consume `count` clusters. -/
  | advance (count : Nat)
  /-- Consume a text: as one whole cluster, or scalar by scalar. -/
  | matchText (text : Text) (level : MatchLevel)
  /-- Consume a constant text, which at the grapheme level must end between two clusters. -/
  | matchString (string : StringId) (level : MatchLevel)
  /-- Consume one unit that the class accepts. -/
  | consume (cls : CharClass) (level : MatchLevel)
  /-- Push a checkpoint that resumes at the target. -/
  | save (resume : α)
  /-- Push a checkpoint that only waits to be dropped. -/
  | savePlaceholder
  | branch (target : α)
  /-- Jump if the counter is zero, else decrement it. -/
  | condBranch (target : α) (counter : CounterId)
  /-- Push a checkpoint that resumes at `resume`, and jump. -/
  | split (target resume : α)
  /-- Drop the latest checkpoint. -/
  | clear
  /-- Give a counter its initial value again. -/
  | reset (counter : CounterId)
  /-- Remember the position. -/
  | mark (mark : MarkId)
  /-- Forget the remembered position. -/
  | unmark (mark : MarkId)
  /-- Jump if the position is still the remembered one. -/
  | checkProgress (target : α) (mark : MarkId)
  /-- Push a checkpoint up to which a later cut drops. -/
  | fence
  /-- Drop the checkpoints down to the latest fence and the fence itself; return to the position
  of the fence if `rewind` is set. -/
  | cut (rewind : Bool)
  /-- Resume from the latest checkpoint. -/
  | fail
  | accept
  deriving DecidableEq, Repr

namespace Instruction

variable {α β : Type}

/-- Whether the instruction pushes a checkpoint. -/
def pushes : Instruction α → Bool
  | save _ | savePlaceholder | split _ _ | fence => true
  | _ => false

/-- The instruction with each jump target replaced, in the order in which they are written. -/
def mapTargetsM {m : Type → Type} [Monad m] (f : α → m β) : Instruction α → m (Instruction β)
  | advance count => pure (advance count)
  | matchText text level => pure (matchText text level)
  | matchString string level => pure (matchString string level)
  | consume cls level => pure (consume cls level)
  | save resume => do return save (← f resume)
  | savePlaceholder => pure savePlaceholder
  | branch target => do return branch (← f target)
  | condBranch target counter => do return condBranch (← f target) counter
  | split target resume => do
    let target ← f target
    let resume ← f resume
    return split target resume
  | clear => pure clear
  | reset counter => pure (reset counter)
  | mark m => pure (mark m)
  | unmark m => pure (unmark m)
  | checkProgress target m => do return checkProgress (← f target) m
  | fence => pure fence
  | cut rewind => pure (cut rewind)
  | fail => pure fail
  | accept => pure accept

/-! ## Spelling -/

/-- The name of the operation. -/
def mnemonic : Instruction α → String
  | advance _ => "advance"
  | matchText _ _ => "match"
  | matchString _ _ => "match_seq"
  | consume _ _ => "consume"
  | save _ => "save"
  | savePlaceholder => "save_placeholder"
  | branch _ => "branch"
  | condBranch _ _ => "cond_branch"
  | split _ _ => "split"
  | clear => "clear"
  | reset _ => "reset"
  | mark _ => "mark"
  | unmark _ => "unmark"
  | checkProgress _ _ => "check_progress"
  | fence => "fence"
  | cut _ => "cut"
  | fail => "fail"
  | accept => "accept"

end Instruction

/-- How a counter is written. -/
def CounterId.spelling (r : CounterId) : String := "R" ++ toString r.index

/-- How a mark is written. -/
def MarkId.spelling (r : MarkId) : String := "P" ++ toString r.index

/-- How the number of a constant text is written. -/
def StringId.spelling (s : StringId) : String := "S" ++ toString s.index

/-- How the index of an instruction is written. -/
def addressSpelling (index : Nat) : String := "@" ++ toString index

namespace Instruction

/-- The mark of an operand that is tested scalar by scalar. -/
def levelSuffix : MatchLevel → String
  | .grapheme => ""
  | .scalar => " @scalar"

/-- The operands, each list behind its separators. -/
def operands : Instruction Nat → String
  | advance count => " " ++ toString count
  | matchText text level => " " ++ text.quoted ++ levelSuffix level
  | matchString string level => " " ++ string.spelling ++ levelSuffix level
  | consume cls level => " " ++ cls.spelling ++ levelSuffix level
  | save a | branch a => " " ++ addressSpelling a
  | condBranch a r => " " ++ r.spelling ++ ", " ++ addressSpelling a
  | split target resume => " " ++ addressSpelling target ++ ", save " ++ addressSpelling resume
  | reset r => " " ++ r.spelling
  | mark r | unmark r => " " ++ r.spelling
  | checkProgress a r => " " ++ r.spelling ++ ", " ++ addressSpelling a
  | cut true => " restore"
  | savePlaceholder | clear | fence | cut false | fail | accept => ""

/-- How the instruction is written. -/
def spelling (i : Instruction Nat) : String :=
  i.mnemonic ++ i.operands

end Instruction

end GraphemeRegex
