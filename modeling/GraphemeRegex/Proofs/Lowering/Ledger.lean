import GraphemeRegex.Proofs.Lowering.Segments
import GraphemeRegex.Proofs.Program.Building
import GraphemeRegex.Proofs.Program.Interning

/-! # Ledgers — how much an emitter writes

What an emitter adds to a builder is counted: the instructions that push a checkpoint, the counters,
the marks and the constant texts. The ledger of actions one after the other is their ledgers one
behind the other, so that of a whole program is read off its emitter.

* `Ledger`, `Builder.Adds`: the counts, and the builders between which they are made.
* `Emitter.Adds`, `Emitter.Adds.bind`: the ledger of an emitter, and the rule of sequences.
* `Emitter.Adds.program`: what the ledger says about the program.
-/

namespace GraphemeRegex

/-! ## Ledgers -/

/-- How much is written: instructions that push a checkpoint, counters, marks, and constant texts in
the order in which they are needed. -/
@[ext]
structure Ledger where
  pushes : Nat
  counters : Nat
  marks : Nat
  texts : List Text

namespace Ledger

/-- Nothing written. -/
def nothing : Ledger := ⟨0, 0, 0, []⟩

/-- Instructions of which `n` push a checkpoint. -/
def pushing (n : Nat) : Ledger := ⟨n, 0, 0, []⟩

/-- Some instructions, none of which needs a text. -/
def code (l : List (Instruction Label)) : Ledger := pushing (l.countP (·.pushes))

/-- One ledger behind the other. -/
def append (T U : Ledger) : Ledger :=
  ⟨T.pushes + U.pushes, T.counters + U.counters, T.marks + U.marks, T.texts ++ U.texts⟩

instance : Append Ledger := ⟨append⟩

variable (T U V : Ledger)

@[simp] theorem pushes_append : (T ++ U).pushes = T.pushes + U.pushes := rfl

@[simp] theorem counters_append : (T ++ U).counters = T.counters + U.counters := rfl

@[simp] theorem marks_append : (T ++ U).marks = T.marks + U.marks := rfl

@[simp] theorem texts_append : (T ++ U).texts = T.texts ++ U.texts := rfl

@[simp] theorem nothing_append : nothing ++ T = T :=
  Ledger.ext (Nat.zero_add _) (Nat.zero_add _) (Nat.zero_add _) (List.nil_append _)

@[simp] theorem append_nothing : T ++ nothing = T :=
  Ledger.ext (Nat.add_zero _) (Nat.add_zero _) (Nat.add_zero _) (List.append_nil _)

/-- Which ledgers are put together first makes no difference. -/
theorem append_assoc : T ++ U ++ V = T ++ (U ++ V) :=
  Ledger.ext (Nat.add_assoc _ _ _) (Nat.add_assoc _ _ _) (Nat.add_assoc _ _ _)
    (List.append_assoc _ _ _)

theorem pushing_append (m n : Nat) : pushing m ++ pushing n = pushing (m + n) := rfl

/-- Instructions are counted one by one. -/
theorem code_append (l l' : List (Instruction Label)) : code l ++ code l' = code (l ++ l') := by
  rw [code, code, code, List.countP_append, pushing_append]

end Ledger

/-! ## Builders -/

namespace Builder

/-- `b'` is `b` with what the ledger counts behind it. -/
structure Adds (b b' : Builder) (T : Ledger) : Prop where
  pushes : b'.code.countP (·.pushes) = b.code.countP (·.pushes) + T.pushes
  counters : b'.counters.size = b.counters.size + T.counters
  marks : b'.marks = b.marks + T.marks
  strings : ∀ texts, b.strings.Lists texts → b'.strings.Lists (texts ++ T.texts)

variable {b b' b'' : Builder} {T U : Ledger}

/-- A builder with other labels and places has nothing added. -/
theorem adds_nothing (code : b'.code = b.code) (counters : b'.counters = b.counters)
    (marks : b'.marks = b.marks) (strings : b'.strings = b.strings) : b.Adds b' .nothing where
  pushes := congrArg (Array.countP _) code
  counters := congrArg Array.size counters
  marks := marks
  strings texts lists := by
    rw [strings]
    simpa [Ledger.nothing] using lists

/-- What is added later comes behind. -/
theorem Adds.trans (h : b.Adds b' T) (h' : b'.Adds b'' U) : b.Adds b'' (T ++ U) where
  pushes := by rw [h'.pushes, h.pushes, Nat.add_assoc, Ledger.pushes_append]
  counters := by rw [h'.counters, h.counters, Nat.add_assoc, Ledger.counters_append]
  marks := by rw [h'.marks, h.marks, Nat.add_assoc, Ledger.marks_append]
  strings texts lists := by
    rw [Ledger.texts_append, ← List.append_assoc]
    exact h'.strings _ (h.strings texts lists)

/-- Writing an instruction adds that instruction. -/
theorem adds_emit {i : Instruction Label} (emitted : b.emit i = .ok b') :
    b.Adds b' (.code [i]) := by
  obtain ⟨_, rfl⟩ := allows_of_emit emitted
  exact {
    pushes := by rw [Array.countP_push, Ledger.code, Ledger.pushing, List.countP_singleton]
    counters := rfl
    marks := rfl
    strings := fun texts lists => by simpa [Ledger.code, Ledger.pushing] using lists }

/-- A constant text is noted, also if the program has it already. -/
theorem adds_emitString (b : Builder) (text : Text) (level : MatchLevel) :
    b.Adds (b.emitString text level) ⟨0, 0, 0, [text]⟩ where
  pushes := Array.countP_push ..
  counters := rfl
  marks := rfl
  strings _ lists := lists.intern text

end Builder

/-! ## Emitters -/

namespace Emitter

variable {α β : Type} {T U : Ledger}

/-- Whenever the emitter ends, it has added what the ledger counts. -/
def Adds (e : Emitter α) (T : Ledger) : Prop :=
  ∀ b x b', e b = .ok (x, b') → b.Adds b' T

theorem Adds.of_eq {e : Emitter α} (h : e.Adds T) (same : T = U) : e.Adds U :=
  same ▸ h

/-- The ledger of a sequence is that of its parts, one behind the other. -/
theorem Adds.bind {e : Emitter α} {f : α → Emitter β} (h : e.Adds T) (h' : ∀ x, (f x).Adds U) :
    (e >>= f).Adds (T ++ U) := by
  intro b y b'' ends
  rw [bind_apply] at ends
  obtain ⟨⟨x, b'⟩, first, second⟩ := exists_of_bind_eq_ok ends
  exact (h b x b' first).trans (h' x b' y b'' second)

theorem adds_pure (x : α) : (pure x : Emitter α).Adds .nothing := by
  intro b x b' ends
  cases ends
  exact Builder.adds_nothing rfl rfl rfl rfl

/-- Who refuses never ends, and may have any ledger. -/
theorem adds_refuse (construct : String) (T : Ledger) : (refuse construct).Adds T := by
  intro b x b' ends
  cases ends

theorem adds_newLabel : newLabel.Adds .nothing := by
  intro b x b' ends
  cases ends
  exact Builder.adds_nothing rfl rfl rfl rfl

/-- What the builder does, if it does not refuse to. -/
theorem write_eq_ok {f : Builder → Except BuilderFault Builder} {b b' : Builder} {x : Unit}
    (h : write f b = .ok (x, b')) : f b = .ok b' := by
  unfold write at h
  split at h
  · rename_i found
    cases h
    exact found
  · cases h

/-- Placing a label writes nothing. -/
theorem adds_place (label : Label) : (place label).Adds .nothing := by
  intro b x b' ends
  have placed := write_eq_ok ends
  unfold Builder.place at placed
  split at placed
  · cases placed
  · cases placed
  · cases placed
    exact Builder.adds_nothing rfl rfl rfl rfl

/-- One instruction. -/
theorem adds_emit (i : Instruction Label) : (emit i).Adds (.code [i]) :=
  fun _ _ _ ends => Builder.adds_emit (write_eq_ok ends)

/-- Several instructions add themselves one after the other. -/
theorem adds_emitList (l : List (Instruction Label)) : (emitList l).Adds (.code l) := by
  induction l with
  | nil => exact adds_pure ()
  | cons i l ih =>
    have both := (adds_emit i).bind fun _ => ih
    rwa [Ledger.code_append] at both

theorem adds_emitString (text : Text) (level : MatchLevel) :
    (emitString text level).Adds ⟨0, 0, 0, [text]⟩ := by
  intro b x b' ends
  cases ends
  exact b.adds_emitString text level

/-- The registers of a loop. -/
theorem adds_allocate (amount : Amount) (mayBeEmpty : Bool) :
    (LoopRegisters.allocate amount mayBeEmpty).Adds ⟨0, (LoopRegisters.initials amount).length,
      (LoopRegisters.remembers amount mayBeEmpty).toNat, []⟩ := by
  intro b x b' ends
  rw [LoopRegisters.allocate_eq_ok] at ends
  cases ends
  exact {
    pushes := rfl
    counters := by simp [LoopRegisters.allocated]
    marks := rfl
    strings := fun texts lists => by simpa [LoopRegisters.allocated] using lists }

end Emitter

/-! ## Programs -/

/-- The program is what the ledger counts. -/
structure Program.Has (p : Program) (T : Ledger) : Prop where
  pushes : p.pushCount = T.pushes
  counters : p.counters.size = T.counters
  marks : p.marks = T.marks
  texts : p.strings.texts.toList = T.texts.eraseDups

/-- Whether an instruction pushes does not depend on where its jumps lead. -/
theorem Instruction.pushes_mapTargets {α β : Type} (f : α → β) (i : Instruction α) :
    (i.mapTargets f).pushes = i.pushes := by
  cases i <;> rfl

/-- The program of a builder is what was added to nothing. -/
theorem Builder.Adds.finished {b : Builder} {T : Ledger} (h : Builder.empty.Adds b T) :
    b.finished.Has T where
  pushes := by
    have same : (fun i : Instruction Label => (i.mapTargets b.placeOf).pushes) = (·.pushes) :=
      funext (·.pushes_mapTargets b.placeOf)
    rw [Program.pushCount, Builder.finished, Array.countP_map, Function.comp_def, same, h.pushes]
    exact Nat.zero_add _
  counters := h.counters.trans (Nat.zero_add _)
  marks := h.marks.trans (Nat.zero_add _)
  texts := h.strings [] StringTable.lists_empty

/-- What an emitter adds is in the program that it writes. -/
theorem Emitter.Adds.program {e : Emitter Unit} {T : Ledger} {p : Program} (h : e.Adds T)
    (made : Emitter.program e = .ok p) : p.Has T := by
  obtain ⟨⟨x, b⟩, ran, made⟩ := exists_of_bind_eq_ok made
  simp only at made
  split at made
  · rename_i assembled
    cases made
    obtain ⟨_, rfl⟩ := Builder.assemble_eq_ok_iff.1 assembled
    exact (h .empty x b ran).finished
  · cases made

end GraphemeRegex
