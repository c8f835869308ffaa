import GraphemeRegex.Proofs.Machine.Discipline
import GraphemeRegex.Proofs.Pattern.Releveling

/-! # Building — what comes of a sequence of calls

Whoever writes a program calls the builder again and again, and may hand it labels and registers
from anywhere. A call with operands that the builder did not make is refused. So whatever the calls
were, a program that comes out of them refers to its own code, registers and texts only.

* `Builder.Call`, `Builder.performAll`: what a builder can be asked to do.
* `Builder.Sound`: all that has been written is the builder's own.
* `Builder.Sound.perform`, `Builder.Sound.performAll`: calls keep this.
* `Builder.assemble_eq_ok_iff`: which builders can be assembled, and to what.
* `Program.Closed`: a program refers to nothing outside.
-/

namespace GraphemeRegex

/-! ## Jump targets and operands -/

namespace Instruction

variable {α β ε : Type}

/-- Where the targets of an instruction can be replaced, each of them can. -/
theorem exists_of_mapTargetsM {f : α → Except ε β} {i : Instruction α} {j : Instruction β}
    (h : i.mapTargetsM f = .ok j) : ∀ a ∈ i.targets, ∃ target, f a = .ok target := by
  intro a mem
  cases i with
  | save b | branch b | condBranch b _ | checkProgress b _ =>
    rw [List.mem_singleton.1 mem]
    obtain ⟨target, found, _⟩ := exists_of_bind_eq_ok h
    exact ⟨target, found⟩
  -- a choice has two targets, of which the first is looked at first
  | split b c =>
    obtain ⟨target, found, h⟩ := exists_of_bind_eq_ok h
    obtain ⟨resume, found', _⟩ := exists_of_bind_eq_ok h
    simp only [targets, List.mem_cons, List.not_mem_nil, or_false] at mem
    rcases mem with rfl | rfl
    · exact ⟨target, found⟩
    · exact ⟨resume, found'⟩
  | _ => cases mem

variable (f : α → β) (i : Instruction α)

/-- Replacing targets replaces each of them, in order, and leaves the other operands alone. -/
theorem targets_mapTargets : (i.mapTargets f).targets = i.targets.map f := by
  cases i <;> rfl

theorem counters_mapTargets : (i.mapTargets f).counters = i.counters := by
  cases i <;> rfl

theorem marks_mapTargets : (i.mapTargets f).marks = i.marks := by
  cases i <;> rfl

theorem strings_mapTargets : (i.mapTargets f).strings = i.strings := by
  cases i <;> rfl

end Instruction

/-! ## Texts -/

namespace StringTable

variable (t : StringTable) (text : Text)

/-- The number that a text is given is one of the table. -/
theorem index_lt_intern : (t.intern text).1.index < (t.intern text).2.size := by
  have found := t.get?_intern text
  rw [get?] at found
  exact (Array.getElem?_eq_some_iff.1 found).1

theorem size_le_intern : t.size ≤ (t.intern text).2.size := by
  unfold intern
  split
  · exact Nat.le_refl _
  · rw [size, size, Array.size_push]
    exact Nat.le_succ _

end StringTable

namespace Builder

/-! ## Calls -/

/-- What a builder can be asked to do. A constant text is written as a text, so its number is never
one from elsewhere. -/
inductive Call where
  | newLabel
  | newCounter (initial : Nat)
  | newMark
  | intern (text : Text)
  | place (label : Label)
  | emit (i : Instruction Label) (textless : i.strings = [])
  | emitString (text : Text) (level : MatchLevel)

/-- The builder behind a call, which may refuse it. -/
def perform (b : Builder) : Call → Except BuilderFault Builder
  | .newLabel => .ok b.newLabel.2
  | .newCounter initial => .ok (b.newCounter initial).2
  | .newMark => .ok b.newMark.2
  | .intern text => .ok (b.intern text).2
  | .place label => b.place label
  | .emit i _ => b.emit i
  | .emitString text level => .ok (b.emitString text level)

/-- The builder behind a sequence of calls, none of which it refuses. -/
def performAll (b : Builder) (calls : List Call) : Except BuilderFault Builder :=
  calls.foldlM perform b

/-- What has come of a sequence of calls has come of the first one and of the others. -/
theorem performAll_cons_eq_ok {b c : Builder} {call : Call} {calls : List Call}
    (h : b.performAll (call :: calls) = .ok c) :
    ∃ next, b.perform call = .ok next ∧ next.performAll calls = .ok c := by
  rw [performAll, List.foldlM_cons] at h
  exact exists_of_bind_eq_ok h

/-! ## Own operands -/

/-- The builder made every label, register and text that an instruction names. -/
structure Owns (b : Builder) (i : Instruction Label) : Prop where
  allows : b.Allows i
  strings : ∀ id ∈ i.strings, id.index < b.strings.size

/-- All that has been written is the builder's own, and no label has a place behind it. -/
structure Sound (b : Builder) : Prop where
  owns : ∀ i ∈ b.code, b.Owns i
  places : ∀ n place : Nat, b.labels[n]? = some (some place) → place ≤ b.code.size

/-- An instruction that is not refused names labels and registers of the builder. -/
theorem allows_of_emit {b c : Builder} {i : Instruction Label} (h : b.emit i = .ok c) :
    b.Allows i ∧ c = { b with code := b.code.push i } := by
  obtain ⟨_, passed, written⟩ := exists_of_bind_eq_ok h
  refine ⟨?_, (Except.ok.inj written).symm⟩
  -- what each of the checks has found
  have label {a : Label} (h : b.checkLabel a = .ok ()) : a.index < b.labels.size := by
    unfold checkLabel at h
    split at h
    · assumption
    · cases h
  have counter {r : CounterId} (h : b.checkCounter r = .ok ()) : r.index < b.counters.size := by
    unfold checkCounter at h
    split at h
    · assumption
    · cases h
  have mark {r : MarkId} (h : b.checkMark r = .ok ()) : r.index < b.marks := by
    unfold checkMark at h
    split at h
    · assumption
    · cases h
  have both {x y : Except BuilderFault Unit} (h : (x >>= fun _ => y) = .ok ()) :
      x = .ok () ∧ y = .ok () := by
    obtain ⟨_, first, second⟩ := exists_of_bind_eq_ok h
    exact ⟨first, second⟩
  -- and which of them each instruction has passed
  cases i with
  | save a | branch a =>
    have inside := label passed
    constructor <;> simp [Instruction.targets, Instruction.counters, Instruction.marks, inside]
  | condBranch a r =>
    have inside := label (both passed).1
    have known := counter (both passed).2
    constructor <;>
      simp [Instruction.targets, Instruction.counters, Instruction.marks, inside, known]
  | split a c =>
    have inside := label (both passed).1
    have inside' := label (both passed).2
    constructor <;>
      simp [Instruction.targets, Instruction.counters, Instruction.marks, inside, inside']
  | reset r =>
    have known := counter passed
    constructor <;> simp [Instruction.targets, Instruction.counters, Instruction.marks, known]
  | mark r | unmark r =>
    have known := mark passed
    constructor <;> simp [Instruction.targets, Instruction.counters, Instruction.marks, known]
  | checkProgress a r =>
    have inside := label (both passed).1
    have known := mark (both passed).2
    constructor <;>
      simp [Instruction.targets, Instruction.counters, Instruction.marks, inside, known]
  | _ => exact allows_of_free ⟨rfl, rfl, rfl⟩

/-- A label that can be placed is one that waits for its place. -/
theorem place_eq_ok_iff {b c : Builder} {label : Label} :
    b.place label = .ok c ↔ b.labels[label.index]? = some none ∧
      c = { b with labels := b.labels.setIfInBounds label.index (some b.code.size) } := by
  unfold place
  split
  · rename_i unknown
    simp [unknown]
  · rename_i place placed
    simp [placed]
  · rename_i waits
    simp [waits, eq_comm]

namespace Sound

variable {b c : Builder}

/-- Nothing has been written. -/
theorem empty : Builder.empty.Sound where
  owns i mem := absurd mem (by simp [Builder.empty])
  places n place found := by simp [Builder.empty] at found

/-- A builder stays sound when it gets more labels, registers and texts. -/
theorem of_grows (h : b.Sound) (code : c.code = b.code) (grows : b.Grows c)
    (strings : b.strings.size ≤ c.strings.size)
    (places : ∀ n place : Nat, c.labels[n]? = some (some place) → place ≤ b.code.size) :
    c.Sound where
  owns i mem := by
    rw [code] at mem
    obtain ⟨allows, texts⟩ := h.owns i mem
    exact ⟨allows.mono grows, fun id here => Nat.lt_of_lt_of_le (texts id here) strings⟩
  places n place found := by
    rw [code]
    exact places n place found

/-- A builder stays sound when an instruction with its own operands is written. -/
theorem write {i : Instruction Label} (h : b.Sound) (owns : b.Owns i) :
    ({ b with code := b.code.push i } : Builder).Sound where
  owns j mem := by
    rcases Array.mem_push.1 mem with earlier | rfl
    · obtain ⟨allows, texts⟩ := h.owns j earlier
      exact ⟨allows.mono ⟨Nat.le_refl _, Nat.le_refl _, Nat.le_refl _⟩, texts⟩
    · exact ⟨owns.allows.mono ⟨Nat.le_refl _, Nat.le_refl _, Nat.le_refl _⟩, owns.strings⟩
  places n place found := by
    rw [Array.size_push]
    exact Nat.le_succ_of_le (h.places n place found)

theorem intern (h : b.Sound) (text : Text) : (b.intern text).2.Sound :=
  h.of_grows rfl ⟨Nat.le_refl _, Nat.le_refl _, Nat.le_refl _⟩ (b.strings.size_le_intern text)
    h.places

/-- A label that is made has no place yet. -/
theorem newLabel (h : b.Sound) : b.newLabel.2.Sound := by
  refine h.of_grows rfl ⟨?_, Nat.le_refl _, Nat.le_refl _⟩ (Nat.le_refl _) ?_
  · simp [Builder.newLabel]
  · intro n place found
    rw [Builder.newLabel, Array.getElem?_push] at found
    -- the new label has no place
    split at found
    · cases found
    · exact h.places n place found

/-- A label that is placed stands behind all code. -/
theorem place {label : Label} (h : b.Sound) (placed : b.place label = .ok c) : c.Sound := by
  obtain ⟨_, rfl⟩ := place_eq_ok_iff.1 placed
  refine h.of_grows rfl ⟨?_, Nat.le_refl _, Nat.le_refl _⟩ (Nat.le_refl _) ?_
  · simp
  · intro n place found
    rw [Array.getElem?_setIfInBounds] at found
    -- the place that is given is the end of the code; the others are as they were
    split at found
    · split at found
      · cases found
        exact Nat.le_refl _
      · cases found
    · exact h.places n place found

/-- A call that is not refused keeps a builder sound. -/
theorem perform {call : Call} (h : b.Sound) (performed : b.perform call = .ok c) : c.Sound := by
  cases call with
  | newLabel =>
    cases performed
    exact h.newLabel
  | newCounter initial =>
    cases performed
    refine h.of_grows rfl ⟨Nat.le_refl _, ?_, Nat.le_refl _⟩ (Nat.le_refl _) h.places
    simp [newCounter]
  | newMark =>
    cases performed
    exact h.of_grows rfl ⟨Nat.le_refl _, Nat.le_refl _, Nat.le_succ _⟩ (Nat.le_refl _) h.places
  | intern text =>
    cases performed
    exact h.intern text
  | place label => exact h.place performed
  | emit i textless =>
    obtain ⟨allows, rfl⟩ := allows_of_emit performed
    refine h.write ⟨allows, ?_⟩
    simp [textless]
  -- the text is interned first, and then its number is known
  | emitString text level =>
    cases performed
    refine (h.intern text).write ⟨allows_of_free ⟨rfl, rfl, rfl⟩, ?_⟩
    intro id mem
    rw [List.mem_singleton.1 mem]
    exact b.strings.index_lt_intern text

/-- Whatever calls have been made, the builder is sound. -/
theorem performAll {calls : List Call} (h : b.Sound) (performed : b.performAll calls = .ok c) :
    c.Sound := by
  induction calls generalizing b with
  | nil =>
    cases performed
    exact h
  | cons call calls ih =>
    obtain ⟨next, first, later⟩ := performAll_cons_eq_ok performed
    exact ih (h.perform first) later

end Sound

/-! ## Assembling -/

/-- A label can be resolved if it has a place. -/
theorem resolve_eq_ok_iff {b : Builder} {label : Label} {target : Nat} :
    b.resolve label = .ok target ↔ b.labels[label.index]? = some (some target) := by
  unfold resolve
  split
  · rename_i place found
    rw [found]
    simp
  · rename_i unplaced
    constructor
    · intro h
      cases h
    · intro found
      exact absurd found (unplaced target)

/-- If all of a list can be replaced, so can each member of it. -/
theorem exists_of_mapM_eq_ok {α β ε : Type} {f : α → Except ε β} {l : List α} {r : List β}
    (h : l.mapM f = .ok r) : ∀ a ∈ l, ∃ b, f a = .ok b := by
  induction l generalizing r with
  | nil =>
    intro a mem
    cases mem
  | cons a l ih =>
    rw [List.mapM_cons] at h
    obtain ⟨b, first, h⟩ := exists_of_bind_eq_ok h
    obtain ⟨bs, others, _⟩ := exists_of_bind_eq_ok h
    intro a' mem
    rcases List.mem_cons.1 mem with rfl | mem
    · exact ⟨b, first⟩
    · exact ih others a' mem

/-- A builder can be assembled if each label that its code names has a place, and it is assembled to
its finished program. -/
theorem assemble_eq_ok_iff {b : Builder} {p : Program} :
    b.assemble = .ok p ↔
      (∀ i ∈ b.code, ∀ a ∈ i.targets, ∃ place, b.labels[a.index]? = some (some place)) ∧
      p = b.finished := by
  -- with places for all the labels in the code, nothing fails
  have finished (placed : ∀ i ∈ b.code, ∀ a ∈ i.targets,
      ∃ place, b.labels[a.index]? = some (some place)) : b.assemble = .ok b.finished := by
    have resolved : b.code.toList.mapM (fun i => i.mapTargetsM b.resolve) =
        .ok (b.code.toList.map (·.mapTargets b.placeOf)) := by
      refine mapM_eq_ok ?_
      intro i mem
      refine Instruction.mapTargetsM_eq_ok ?_
      intro a target
      obtain ⟨place, found⟩ := placed i (Array.mem_toList_iff.1 mem) a target
      have same : b.placeOf a = place := by
        rw [placeOf, found]
        rfl
      rw [same]
      exact resolve_eq_ok_iff.2 found
    rw [assemble, Array.mapM_eq_mapM_toList, resolved, ← Array.toList_map]
    rfl
  constructor
  · intro h
    -- and if nothing failed, all of them had places
    have placed : ∀ i ∈ b.code, ∀ a ∈ i.targets,
        ∃ place, b.labels[a.index]? = some (some place) := by
      rw [assemble, Array.mapM_eq_mapM_toList] at h
      intro i mem a target
      obtain ⟨_, resolved, _⟩ := exists_of_bind_eq_ok h
      rcases all : b.code.toList.mapM (fun i => i.mapTargetsM b.resolve) with _ | code
      · rw [all] at resolved
        cases resolved
      · obtain ⟨j, found⟩ := exists_of_mapM_eq_ok all i (Array.mem_toList_iff.2 mem)
        obtain ⟨place, found⟩ := Instruction.exists_of_mapTargetsM found a target
        exact ⟨place, resolve_eq_ok_iff.1 found⟩
    refine ⟨placed, ?_⟩
    rw [finished placed] at h
    exact (Except.ok.inj h).symm
  · rintro ⟨placed, rfl⟩
    exact finished placed

end Builder

/-! ## Closed programs -/

/-- A program refers to nothing outside: each jump goes to one of its instructions or to its end,
and its registers and texts are its own. -/
structure Program.Closed (p : Program) : Prop where
  targets : ∀ i ∈ p.code, ∀ target ∈ i.targets, target ≤ p.size
  knows : ∀ i ∈ p.code, p.Knows i

namespace Builder

/-- A sound builder is assembled to a closed program. -/
theorem Sound.closed {b : Builder} {p : Program} (h : b.Sound) (assembled : b.assemble = .ok p) :
    p.Closed := by
  obtain ⟨placed, rfl⟩ := assemble_eq_ok_iff.1 assembled
  constructor
  · intro i mem target isTarget
    obtain ⟨j, written, rfl⟩ := Array.mem_map.1 mem
    rw [Instruction.targets_mapTargets] at isTarget
    obtain ⟨a, named, rfl⟩ := List.mem_map.1 isTarget
    obtain ⟨place, found⟩ := placed j written a named
    -- a place is one of the code, or its end
    have behind : place ≤ b.code.size := h.places a.index place found
    simpa [placeOf, found, Program.size, finished] using behind
  · intro i mem
    obtain ⟨j, written, rfl⟩ := Array.mem_map.1 mem
    obtain ⟨allows, strings⟩ := h.owns j written
    constructor
    · rw [Instruction.counters_mapTargets]
      exact allows.counters
    · rw [Instruction.marks_mapTargets]
      exact allows.marks
    · rw [Instruction.strings_mapTargets]
      exact strings

/-- Whatever a builder was asked to do, the program that comes of it refers to nothing outside. -/
theorem closed_of_performAll {calls : List Call} {b : Builder} {p : Program}
    (performed : empty.performAll calls = .ok b) (assembled : b.assemble = .ok p) : p.Closed :=
  (Sound.empty.performAll performed).closed assembled

end Builder

end GraphemeRegex
