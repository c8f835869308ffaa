import GraphemeRegex.Proofs.Machine.Effects

/-! # Discipline — what code may expect on the checkpoint stack

An instruction that clears or cuts finds on the stack what the code in front of it has pushed. The
shape of a stack says what code has pushed there for itself: checkpoints to clear and fences to cut
to. Each index of a program is entered with certain shapes only, also when it is resumed.

* `Shape`, `CheckpointStack.Shaped`: what is on a stack.
* `Program.Follows`: what an instruction does to the shape.
* `Program.Keeps`: code that keeps to the shapes until it is left.
* `State.Obeys.step`: a machine does not fault in such code.
-/

namespace GraphemeRegex

/-! ## Shapes -/

/-- What code pushes on the stack for itself. -/
inductive Marker where
  /-- A checkpoint that is to be cleared. -/
  | slot
  /-- A fence that is to be cut to. -/
  | fence
  /-- Nothing, and nothing may be left on top of it. -/
  | floor
  deriving DecidableEq

/-- What lies on the stack for the code that is running, the latest first. -/
abbrev Shape := List Marker

/-- Whether places to resume from may be left on top. They would hide a checkpoint from its clear,
but not a fence from its cut. -/
def Shape.isOpen : Shape → Bool
  | .slot :: _ | .floor :: _ => false
  | _ => true

/-- At which index a program is entered with which shape. -/
abbrev Shaping := Nat → Shape → Prop

/-- A stack has a shape above the entries `base`. Its places to resume from are entered with the
shape of the stack below them; one of them may wait to be cleared. -/
inductive CheckpointStack.Shaped (K : Shaping) (base : List Checkpoint) :
    Shape → List Checkpoint → Prop where
  | base : Shaped K base [] base
  | left {saved : Snapshot} {σ : Shape} {T : List Checkpoint} (free : σ.isOpen = true)
    (place : K saved.ip σ) (below : Shaped K base σ T) : Shaped K base σ (.resume saved :: T)
  | placeholder {saved : Snapshot} {σ : Shape} {T : List Checkpoint} (below : Shaped K base σ T) :
    Shaped K base (.slot :: σ) (.placeholder saved :: T)
  | waiting {saved : Snapshot} {σ : Shape} {T : List Checkpoint} (place : K saved.ip σ)
    (below : Shaped K base σ T) : Shaped K base (.slot :: σ) (.resume saved :: T)
  | fence {saved : Snapshot} {σ : Shape} {T : List Checkpoint} (below : Shaped K base σ T) :
    Shaped K base (.fence :: σ) (.fence saved :: T)
  | floor : Shaped K base [.floor] base

namespace CheckpointStack.Shaped

variable {K : Shaping} {base : List Checkpoint} {σ : Shape} {S : CheckpointStack}

/-- What a clear drops is there. -/
theorem pop? (h : Shaped K base (.slot :: σ) S.entries) :
    ∃ T : CheckpointStack, S.pop? = some T ∧ Shaped K base σ T.entries := by
  generalize entries : S.entries = l at h
  cases h with
  | left free => cases free
  | placeholder below | waiting _ below =>
    obtain rfl := eq_push entries
    exact ⟨_, rfl, below⟩

/-- What a cut drops is there. -/
theorem cut? (h : Shaped K base (.fence :: σ) S.entries) :
    ∃ (pos : Position) (T : CheckpointStack), S.cut? = some (pos, T) ∧
      Shaped K base σ T.entries := by
  generalize entries : S.entries = l at h
  induction l generalizing S with
  | nil => cases h
  | cons e l ih =>
    obtain rfl := eq_push entries
    cases h with
    | left _ _ below =>
      -- a place to resume from goes away together with the fence below it
      exact ih (S := ofList l) rfl below
    | fence below => exact ⟨_, _, rfl, below⟩

/-- Unwinding comes to a place with the shape that is expected there, or to the base. -/
theorem unwind (h : Shaped K base σ S.entries) :
    (∃ (saved : Snapshot) (T : CheckpointStack) (τ : Shape), S.unwind = some (saved, T) ∧
      K saved.ip τ ∧ Shaped K base τ T.entries) ∨ S.unwind = (ofList base).unwind := by
  generalize entries : S.entries = l at h
  induction h generalizing S with
  | base | floor =>
    obtain rfl : S = ofList base := ext entries
    exact .inr rfl
  | left _ place below | waiting place below =>
    obtain rfl := eq_push entries
    exact .inl ⟨_, _, _, rfl, place, below⟩
  | @placeholder _ _ T _ ih | @fence _ _ T _ ih =>
    obtain rfl := eq_push entries
    exact ih (S := ofList T) rfl

/-- Where nothing may be left on top, the stack is the base. -/
theorem eq_base {l : List Checkpoint} (h : Shaped K base [.floor] l) : l = base := by
  cases h with
  | left free => cases free
  | floor => rfl

/-- The base stays at the bottom. -/
theorem suffix {l : List Checkpoint} (h : Shaped K base σ l) : base <:+ l := by
  induction h with
  | base | floor => exact List.suffix_rfl
  | left _ _ _ ih | placeholder _ ih | waiting _ _ ih | fence _ ih =>
    exact ih.trans (List.suffix_cons _ _)

/-- Where nothing is expected on the stack, there are only places to resume from above the base. -/
theorem exists_left {l : List Checkpoint} (h : Shaped K base [] l) :
    ∃ left, l = left ++ base ∧ ∀ e ∈ left, ∃ saved, e = .resume saved ∧ K saved.ip [] := by
  generalize empty : ([] : Shape) = τ at h
  induction h with
  | base => exact ⟨[], rfl, fun e mem => absurd mem List.not_mem_nil⟩
  | @left saved σ T _ place _ ih =>
    subst empty
    obtain ⟨left, split, places⟩ := ih rfl
    refine ⟨.resume saved :: left, by rw [split, List.cons_append], ?_⟩
    intro e mem
    rcases List.mem_cons.1 mem with rfl | mem
    · exact ⟨saved, rfl, place⟩
    · exact places e mem
  | placeholder | waiting | fence | floor => cases empty

/-- Where nothing is expected on the stack, nothing is expected on what remains when some of it has
been dropped, either. -/
theorem of_suffix {l l' : List Checkpoint} (h : Shaped K base [] l) (rest : l' <:+ l)
    (above : base.length ≤ l'.length) : Shaped K base [] l' := by
  generalize empty : ([] : Shape) = τ at h ⊢
  induction h with
  | base =>
    obtain rfl := rest.eq_of_length_le above
    exact .base
  | left free place below ih =>
    rcases List.suffix_cons_iff.1 rest with same | rest
    · exact same ▸ .left free place below
    · exact ih rest empty
  | placeholder | waiting | fence | floor => cases empty

/-- Where nothing is expected on the stack, nothing is expected above some of the rest, either. -/
theorem above_suffix {l l' : List Checkpoint} (h : Shaped K base [] l) (rest : l' <:+ l)
    (above : base.length ≤ l'.length) : Shaped K l' [] l := by
  generalize empty : ([] : Shape) = τ at h ⊢
  induction h with
  | base =>
    obtain rfl := rest.eq_of_length_le above
    exact .base
  | left free place below ih =>
    rcases List.suffix_cons_iff.1 rest with same | rest
    · subst same empty
      exact .base
    · exact .left free place (ih rest empty)
  | placeholder | waiting | fence | floor => cases empty

theorem mono {K' : Shaping} {l : List Checkpoint} (h : Shaped K base σ l)
    (le : ∀ a τ, K a τ → K' a τ) : Shaped K' base σ l := by
  induction h with
  | base => exact .base
  | left free place _ ih => exact .left free (le _ _ place) ih
  | placeholder _ ih => exact .placeholder ih
  | waiting place _ ih => exact .waiting (le _ _ place) ih
  | fence _ ih => exact .fence ih
  | floor => exact .floor

/-- Where there is nothing to resume from, the base has nothing, either. -/
theorem unwind_base (h : Shaped K base σ S.entries) (nothing : S.unwind = none) :
    (ofList base).unwind = none := by
  rcases h.unwind with ⟨saved, T, _, found, _⟩ | same
  · rw [nothing] at found
    cases found
  · rw [← same, nothing]

end CheckpointStack.Shaped

/-! ## Instructions -/

namespace Instruction

variable {α : Type}

/-- Whether the instruction goes on to the next one or to a target, and leaves the stack alone
unless it backtracks. -/
def isPlain : Instruction α → Bool
  | advance _ | matchText _ _ | matchString _ _ | consume _ _ | condBranch _ _ | reset _ | mark _
  | unmark _ | checkProgress _ _ => true
  | _ => false

end Instruction

namespace Program

/-- The program has the registers and the constant text that an instruction refers to. -/
structure Knows (p : Program) (i : Instruction Nat) : Prop where
  counters : ∀ r ∈ i.counters, r.index < p.counters.size
  marks : ∀ r ∈ i.marks, r.index < p.marks
  strings : ∀ id ∈ i.strings, id.index < p.strings.size

/-- An instruction at an index that is entered with a shape leads to places of `K` only. -/
inductive Follows (p : Program) (K : Shaping) (ip : Nat) (σ : Shape) : Instruction Nat → Prop where
  | plain {i : Instruction Nat} (plain : i.isPlain = true) (knows : p.Knows i)
    (targets : ∀ target ∈ i.targets, K target σ) (next : K (ip + 1) σ) : Follows p K ip σ i
  | branch {target : Nat} (jump : K target σ) : Follows p K ip σ (.branch target)
  | save {resume : Nat} (free : σ.isOpen = true) (later : K resume σ) (next : K (ip + 1) σ) :
    Follows p K ip σ (.save resume)
  | saveSlot {resume : Nat} (later : K resume σ) (next : K (ip + 1) (.slot :: σ)) :
    Follows p K ip σ (.save resume)
  | placeholder (next : K (ip + 1) (.slot :: σ)) : Follows p K ip σ .savePlaceholder
  | split {target resume : Nat} (free : σ.isOpen = true) (later : K resume σ) (jump : K target σ) :
    Follows p K ip σ (.split target resume)
  | splitSlot {target resume : Nat} (later : K resume σ) (jump : K target (.slot :: σ)) :
    Follows p K ip σ (.split target resume)
  | clear {τ : Shape} (shape : σ = .slot :: τ) (next : K (ip + 1) τ) : Follows p K ip σ .clear
  | fence (next : K (ip + 1) (.fence :: σ)) : Follows p K ip σ .fence
  | cut {rewind : Bool} {τ : Shape} (shape : σ = .fence :: τ) (next : K (ip + 1) τ) :
    Follows p K ip σ (.cut rewind)
  | fail : Follows p K ip σ .fail
  | accept : Follows p K ip σ .accept

/-- An instruction may lead to more places. -/
theorem Follows.mono {p : Program} {K K' : Shaping} {ip : Nat} {σ : Shape} {i : Instruction Nat}
    (h : p.Follows K ip σ i) (le : ∀ a τ, K a τ → K' a τ) : p.Follows K' ip σ i := by
  cases h with
  | plain plain knows targets next =>
    exact .plain plain knows (fun target mem => le _ _ (targets target mem)) (le _ _ next)
  | branch jump => exact .branch (le _ _ jump)
  | save free later next => exact .save free (le _ _ later) (le _ _ next)
  | saveSlot later next => exact .saveSlot (le _ _ later) (le _ _ next)
  | placeholder next => exact .placeholder (le _ _ next)
  | split free later jump => exact .split free (le _ _ later) (le _ _ jump)
  | splitSlot later jump => exact .splitSlot (le _ _ later) (le _ _ jump)
  | clear shape next => exact .clear shape (le _ _ next)
  | fence next => exact .fence (le _ _ next)
  | cut shape next => exact .cut shape (le _ _ next)
  | fail => exact .fail
  | accept => exact .accept

/-! ## Code -/

/-- Code that is entered at an index with a shape keeps to the shapes until it comes to `E`, and its
instructions up to there stand at indexes of `R`. -/
def Keeps (p : Program) (R : Nat → Prop) (E : Shaping) (ip : Nat) (σ : Shape) : Prop :=
  ∃ K : Shaping, K ip σ ∧
    ∀ a τ, K a τ → E a τ ∨ R a ∧ ∃ i, p.code[a]? = some i ∧ p.Follows K a τ i

namespace Keeps

variable {p : Program} {R : Nat → Prop} {E E' L : Shaping} {ip stop : Nat} {σ : Shape}

theorem of_exit (h : E ip σ) : p.Keeps R E ip σ := ⟨E, h, fun _ _ => .inl⟩

/-- Where code has not been left, its next instruction keeps to the shapes. -/
theorem cases (h : p.Keeps R E ip σ) :
    E ip σ ∨ R ip ∧ ∃ i, p.code[ip]? = some i ∧ p.Follows (p.Keeps R E) ip σ i := by
  rcases h with ⟨K, place, closed⟩
  refine (closed ip σ place).imp_right ?_
  rintro ⟨inside, i, code, follows⟩
  refine ⟨inside, i, code, follows.mono ?_⟩
  intro a τ place'
  exact ⟨K, place', closed⟩

/-- Code that is never left always has a next instruction. -/
theorem exists_code (h : p.Keeps R (fun _ _ => False) ip σ) :
    ∃ i, p.code[ip]? = some i ∧ p.Follows (p.Keeps R fun _ _ => False) ip σ i :=
  (h.cases.resolve_left id).2

theorem of_code {i : Instruction Nat} (inside : R ip) (code : p.code[ip]? = some i)
    (follows : p.Follows (p.Keeps R E) ip σ i) : p.Keeps R E ip σ := by
  -- one more place than those from which the code keeps to its shapes anyway
  refine ⟨fun a τ => p.Keeps R E a τ ∨ a = ip ∧ τ = σ, .inr ⟨rfl, rfl⟩, ?_⟩
  rintro a τ (keeps | ⟨rfl, rfl⟩)
  · refine keeps.cases.imp_right ?_
    rintro ⟨inside, i, code, follows⟩
    exact ⟨inside, i, code, follows.mono fun _ _ => .inl⟩
  · exact .inr ⟨inside, i, code, follows.mono fun _ _ => .inl⟩

/-- Places to which code comes back need not be left, if at least one instruction lies in
between. -/
theorem of_loop (again : ∀ a τ, L a τ → R a ∧ ∃ i, p.code[a]? = some i ∧
      p.Follows (p.Keeps R fun a τ => E a τ ∨ L a τ) a τ i)
    (h : p.Keeps R (fun a τ => E a τ ∨ L a τ) ip σ) : p.Keeps R E ip σ := by
  -- a place of `L` is left by its instruction, which leads to places of the same kind
  refine ⟨p.Keeps R fun a τ => E a τ ∨ L a τ, h, ?_⟩
  intro a τ keeps
  rcases keeps.cases with (exit | back) | step
  · exact .inl exit
  · exact .inr (again a τ back)
  · exact .inr step

theorem mono (h : p.Keeps R E ip σ) (le : ∀ a τ, E a τ → E' a τ) : p.Keeps R E' ip σ := by
  rcases h with ⟨K, place, closed⟩
  refine ⟨K, place, ?_⟩
  intro a τ place'
  exact (closed a τ place').imp_left (le a τ)

/-- Code that is left for code goes on with that code. -/
theorem onward {R' : Nat → Prop} (h : p.Keeps R E ip σ) (inside : ∀ a, R a → R' a)
    (exits : ∀ a τ, E a τ → p.Keeps R' E' a τ) : p.Keeps R' E' ip σ := by
  refine ⟨fun a τ => p.Keeps R E a τ ∨ p.Keeps R' E' a τ, .inl h, ?_⟩
  have behind {a : Nat} {τ : Shape} (keeps : p.Keeps R' E' a τ) : E' a τ ∨ R' a ∧
      ∃ i, p.code[a]? = some i ∧
        p.Follows (fun a τ => p.Keeps R E a τ ∨ p.Keeps R' E' a τ) a τ i := by
    refine keeps.cases.imp_right ?_
    rintro ⟨here, i, code, follows⟩
    exact ⟨here, i, code, follows.mono fun _ _ => .inr⟩
  rintro a τ (keeps | keeps)
  · rcases keeps.cases with exit | ⟨here, i, code, follows⟩
    · exact behind (exits a τ exit)
    · exact .inr ⟨inside a here, i, code, follows.mono fun _ _ => .inl⟩
  · exact behind keeps

/-- Plain instructions keep to the shape with which they are entered. -/
theorem of_plain {l : List (Instruction Nat)} (code : p.Segment ip l stop)
    (inside : ∀ a, ip ≤ a → a < stop → R a) (plain : ∀ i ∈ l, i.isPlain = true)
    (knows : ∀ i ∈ l, p.Knows i) (targets : ∀ i ∈ l, ∀ target ∈ i.targets, p.Keeps R E target σ)
    (h : p.Keeps R E stop σ) : p.Keeps R E ip σ := by
  rcases code with ⟨code, rfl⟩
  induction l generalizing ip with
  | nil => exact h
  | cons i l ih =>
    have here : R ip := inside ip (Nat.le_refl ip) (by simp)
    -- the first instruction, and then the others
    have length : ip + (i :: l).length = ip + 1 + l.length := by
      rw [List.length_cons]
      omega
    rw [length] at h inside
    refine of_code here code.1
      (.plain (plain i (by simp)) (knows i (by simp)) (targets i (by simp)) ?_)
    refine ih ?_ ?_ ?_ code.2 ?_ h
    · intro j mem
      exact plain j (by simp [mem])
    · intro j mem
      exact knows j (by simp [mem])
    · intro j mem
      exact targets j (by simp [mem])
    · intro a low high
      exact inside a (by omega) high

end Keeps

end Program

/-! ## Machines -/

/-- A state is at a place of `K`, and its stack has the shape for it above `base`. -/
def State.Obeys (K : Shaping) (base : List Checkpoint) (s : State) : Prop :=
  ∃ σ, K s.ip σ ∧ CheckpointStack.Shaped K base σ s.stack.entries

/-- A step does not fault, and a state that it leads to is at a place of `K`, unless the step falls
back to below the shape. -/
def Step.Obeys (K : Shaping) (base : List Checkpoint) (step : Step) : Prop :=
  match step with
  | .next s => s.Obeys K base ∨ step = (CheckpointStack.ofList base).fallBack
  | .halt _ => True
  | .fault _ => False

section Machines

variable {K : Shaping} {base : List Checkpoint} {m : Machine} {s : State} {σ : Shape}

theorem State.obeys_backtrack (shaped : CheckpointStack.Shaped K base σ s.stack.entries) :
    s.backtrack.Obeys K base := by
  rw [State.backtrack_eq]
  rcases shaped.unwind with ⟨saved, T, τ, found, place, below⟩ | found
  · rw [CheckpointStack.fallBack, found]
    exact .inl ⟨τ, place, below⟩
  · have same : s.stack.fallBack = (CheckpointStack.ofList base).fallBack := by
      rw [CheckpointStack.fallBack, CheckpointStack.fallBack, found]
    rw [same]
    -- falling back to below the shape is no fault, wherever it leads
    cases below : (CheckpointStack.ofList base).fallBack with
    | next s => exact .inr below.symm
    | halt r => trivial
    | fault f =>
      unfold CheckpointStack.fallBack at below
      split at below <;> cases below

/-- A plain instruction whose registers and texts are known does not fault. -/
theorem Machine.obeys_execute_of_plain {i : Instruction Nat} (plain : i.isPlain = true)
    (knows : m.program.Knows i) (sized : s.Sized m.program)
    (targets : ∀ target ∈ i.targets, K target σ) (next : K (s.ip + 1) σ)
    (shaped : CheckpointStack.Shaped K base σ s.stack.entries) :
    (m.execute s i).Obeys K base := by
  have consumes (taken : Option (Text × Position)) : (s.afterConsuming taken).Obeys K base := by
    cases taken with
    | none => exact State.obeys_backtrack shaped
    | some found => exact .inl ⟨σ, next, shaped⟩
  -- registers that the program has are those of the state
  have counter (id : CounterId) (mem : id ∈ i.counters) : id.index < s.counters.size := by
    rw [sized.counters]
    exact knows.counters id mem
  have mark (id : MarkId) (mem : id ∈ i.marks) : id.index < s.marks.size := by
    rw [sized.marks]
    exact knows.marks id mem
  cases i with
  | advance _ | matchText _ _ | consume _ _ => exact consumes _
  | matchString string _ =>
    rw [Machine.execute, if_pos (knows.strings string (by simp [Instruction.strings]))]
    exact consumes _
  | condBranch target id =>
    have inside := counter id (by simp [Instruction.counters])
    rw [Machine.execute, State.countDown, Array.getElem?_eq_getElem inside]
    cases s.counters[id.index] with
    | zero => exact .inl ⟨σ, targets target (by simp [Instruction.targets]), shaped⟩
    | succ n => exact .inl ⟨σ, next, shaped⟩
  | reset id =>
    have inside := knows.counters id (by simp [Instruction.counters])
    rw [Machine.execute, Machine.resetCounter, Array.getElem?_eq_getElem inside]
    exact .inl ⟨σ, next, shaped⟩
  | mark id | unmark id =>
    rw [Machine.execute, State.setMark, if_pos (mark id (by simp [Instruction.marks]))]
    exact .inl ⟨σ, next, shaped⟩
  | checkProgress target id =>
    have inside := mark id (by simp [Instruction.marks])
    simp only [Machine.execute, State.checkProgress, Array.getElem?_eq_getElem inside]
    by_cases still : s.marks[id.index] = some s.pos.offset
    · rw [if_pos still]
      exact .inl ⟨σ, targets target (by simp [Instruction.targets]), shaped⟩
    · rw [if_neg still]
      exact .inl ⟨σ, next, shaped⟩
  | _ => cases plain

/-- Where an instruction leads to places of `K` only, executing it does not fault. -/
theorem Machine.obeys_execute {i : Instruction Nat} (follows : m.program.Follows K s.ip σ i)
    (sized : s.Sized m.program) (shaped : CheckpointStack.Shaped K base σ s.stack.entries) :
    (m.execute s i).Obeys K base := by
  cases follows with
  | plain plain knows targets next =>
    exact obeys_execute_of_plain plain knows sized targets next shaped
  | branch jump => exact .inl ⟨_, jump, shaped⟩
  | save free later next => exact .inl ⟨_, next, .left free later shaped⟩
  | saveSlot later next => exact .inl ⟨_, next, .waiting later shaped⟩
  | placeholder next => exact .inl ⟨_, next, .placeholder shaped⟩
  | split free later jump => exact .inl ⟨_, jump, .left free later shaped⟩
  | splitSlot later jump => exact .inl ⟨_, jump, .waiting later shaped⟩
  -- what is cleared or cut lies on top of what is left, with its own shape
  | clear shape next =>
    subst shape
    rcases shaped.pop? with ⟨T, found, below⟩
    rw [Machine.execute, State.clear, found]
    exact .inl ⟨_, next, below⟩
  | fence next => exact .inl ⟨_, next, .fence shaped⟩
  | cut shape next =>
    subst shape
    rcases shaped.cut? with ⟨pos, T, found, below⟩
    rw [Machine.execute, State.cut, found]
    exact .inl ⟨_, next, below⟩
  | fail => exact State.obeys_backtrack shaped
  | accept =>
    rw [Machine.execute]
    split
    · trivial
    · exact State.obeys_backtrack shaped

/-- In code that keeps to its shapes, a machine does not fault. -/
theorem State.Obeys.step
    (closed : ∀ ip σ, K ip σ → ∃ i, m.program.code[ip]? = some i ∧ m.program.Follows K ip σ i)
    (sized : s.Sized m.program) (h : s.Obeys K base) : (m.step s).Obeys K base := by
  rcases h with ⟨σ, place, shaped⟩
  rcases closed s.ip σ place with ⟨i, code, follows⟩
  rw [Machine.step_of_code code]
  exact Machine.obeys_execute follows sized shaped

end Machines

end GraphemeRegex
