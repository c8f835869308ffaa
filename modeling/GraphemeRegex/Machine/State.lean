import GraphemeRegex.Program.Basic

/-! # Machine states — where a run stands and where it can return to

A run of the machine has a snapshot of what it is doing and a stack of checkpoints. Every checkpoint
saves the snapshot at which it was made. A failing path resumes from the latest checkpoint that is
there for that; fences and placeholders only mark a place in the stack.

* `Checkpoint.saved`: the snapshot that a checkpoint saves.
* `CheckpointStack.unwind`: the latest snapshot to resume from and what lies below it.
* `CheckpointStack.cut?`: the latest fence and what lies below it.
-/

namespace GraphemeRegex

/-- What a run needs in order to go on from a place. -/
structure Snapshot where
  /-- The index of the instruction that comes next. -/
  ip : Nat
  pos : Position
  counters : Array Nat
  /-- The offset that each mark remembers. -/
  marks : Array (Option Nat)
  deriving DecidableEq, Repr

/-- An entry of the checkpoint stack. Whatever it is for, it saves a snapshot. -/
inductive Checkpoint where
  /-- A place to resume from. -/
  | resume (saved : Snapshot)
  /-- Waits to be dropped. -/
  | placeholder (saved : Snapshot)
  /-- The place down to which a cut drops. -/
  | fence (saved : Snapshot)
  deriving DecidableEq, Repr

/-- The snapshot that a checkpoint saves. -/
def Checkpoint.saved : Checkpoint → Snapshot
  | resume saved | placeholder saved | fence saved => saved

/-- A stack of checkpoints, the latest first, that knows its height. -/
structure CheckpointStack where
  entries : List Checkpoint
  depth : Nat
  depth_eq : depth = entries.length

namespace CheckpointStack

@[ext] theorem ext {s t : CheckpointStack} (h : s.entries = t.entries) : s = t := by
  obtain ⟨es, _, hs⟩ := s
  obtain ⟨et, _, ht⟩ := t
  subst hs ht
  cases h
  rfl

/-- The stack with the given entries. -/
def ofList (entries : List Checkpoint) : CheckpointStack :=
  ⟨entries, entries.length, rfl⟩

/-- No checkpoints. -/
def empty : CheckpointStack := ofList []

/-- Adds an entry. -/
def push (s : CheckpointStack) (c : Checkpoint) : CheckpointStack :=
  ⟨c :: s.entries, s.depth + 1, by simp [s.depth_eq]⟩

/-- Drops the latest entry. -/
def pop? : CheckpointStack → Option CheckpointStack
  | ⟨[], _, _⟩ => none
  | ⟨_ :: rest, depth, h⟩ => some ⟨rest, depth - 1, by simp_all⟩

/-- The first snapshot to resume from among the entries of a stack, and the stack below it. -/
def unwindEntries : (entries : List Checkpoint) → (depth : Nat) → depth = entries.length →
    Option (Snapshot × CheckpointStack)
  | [], _, _ => none
  | .resume saved :: rest, depth, h => some (saved, ⟨rest, depth - 1, by simp_all⟩)
  -- markers are dropped on the way
  | .placeholder _ :: rest, depth, h => unwindEntries rest (depth - 1) (by simp_all)
  | .fence _ :: rest, depth, h => unwindEntries rest (depth - 1) (by simp_all)

/-- The latest snapshot to resume from and the stack below it; fences and placeholders above it are
dropped. -/
def unwind (s : CheckpointStack) : Option (Snapshot × CheckpointStack) :=
  unwindEntries s.entries s.depth s.depth_eq

/-- The position of the first fence among the entries of a stack, and the stack below it. -/
def cutEntries : (entries : List Checkpoint) → (depth : Nat) → depth = entries.length →
    Option (Position × CheckpointStack)
  | [], _, _ => none
  | .fence saved :: rest, depth, h => some (saved.pos, ⟨rest, depth - 1, by simp_all⟩)
  | .placeholder _ :: rest, depth, h => cutEntries rest (depth - 1) (by simp_all)
  -- the snapshots above the fence are lost
  | .resume _ :: rest, depth, h => cutEntries rest (depth - 1) (by simp_all)

/-- The position of the latest fence and the stack below it. -/
def cut? (s : CheckpointStack) : Option (Position × CheckpointStack) :=
  cutEntries s.entries s.depth s.depth_eq

@[simp] theorem entries_push (s : CheckpointStack) (c : Checkpoint) :
    (s.push c).entries = c :: s.entries := rfl

@[simp] theorem entries_ofList (entries : List Checkpoint) : (ofList entries).entries = entries :=
  rfl

@[simp] theorem depth_push (s : CheckpointStack) (c : Checkpoint) :
    (s.push c).depth = s.depth + 1 := rfl

@[simp] theorem pop?_push (s : CheckpointStack) (c : Checkpoint) : (s.push c).pop? = some s := rfl

@[simp] theorem unwind_push_resume (s : CheckpointStack) (saved : Snapshot) :
    (s.push (.resume saved)).unwind = some (saved, s) := rfl

@[simp] theorem unwind_push_placeholder (s : CheckpointStack) (saved : Snapshot) :
    (s.push (.placeholder saved)).unwind = s.unwind := rfl

@[simp] theorem unwind_push_fence (s : CheckpointStack) (saved : Snapshot) :
    (s.push (.fence saved)).unwind = s.unwind := rfl

@[simp] theorem cut?_push_resume (s : CheckpointStack) (saved : Snapshot) :
    (s.push (.resume saved)).cut? = s.cut? := rfl

@[simp] theorem cut?_push_placeholder (s : CheckpointStack) (saved : Snapshot) :
    (s.push (.placeholder saved)).cut? = s.cut? := rfl

@[simp] theorem cut?_push_fence (s : CheckpointStack) (saved : Snapshot) :
    (s.push (.fence saved)).cut? = some (saved.pos, s) := rfl

end CheckpointStack

/-- A state of the machine. -/
structure State extends Snapshot where
  stack : CheckpointStack

namespace State

/-- The state in which a program begins at a position. -/
def initial (p : Program) (start : Position) : State where
  ip := 0
  pos := start
  counters := p.counters
  marks := Array.replicate p.marks none
  stack := .empty

/-- The state at the next instruction. -/
def next (s : State) : State :=
  { s with ip := s.ip + 1 }

/-- The state at another instruction. -/
def jump (s : State) (target : Nat) : State :=
  { s with ip := target }

/-- The state with one more checkpoint. -/
def push (s : State) (c : Checkpoint) : State :=
  { s with stack := s.stack.push c }

/-- A checkpoint that resumes the present state at an instruction. -/
def resumeAt (s : State) (ip : Nat) : Checkpoint :=
  .resume { s.toSnapshot with ip }

end State

end GraphemeRegex
