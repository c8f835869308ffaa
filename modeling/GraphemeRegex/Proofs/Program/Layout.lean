import GraphemeRegex.Program.Builder

/-! # Layout — where code stands in a program

A program in the making names its jump targets by labels, a finished one by indices. Replacing
every label by its place (`Instruction.mapTargets`) turns the one into the other.

* `Cursor`: how much code and how many registers come before a point of a program.
* `Program.CodeAt`: a list of instructions stands at an index.
* `Builder.assemble_eq_ok`: a builder that has placed all its labels can be assembled.
-/

namespace GraphemeRegex

/-! ## Jump targets -/

namespace Instruction

variable {α β : Type}

/-- The jump targets of an instruction, in the order in which they are written. -/
def targets : Instruction α → List α
  | save a | branch a | condBranch a _ | checkProgress a _ => [a]
  | split target resume => [target, resume]
  | _ => []

/-- The instruction with each jump target replaced. -/
def mapTargets (f : α → β) (i : Instruction α) : Instruction β :=
  Id.run (i.mapTargetsM fun a => pure (f a))

/-- Replacing targets by something that may fail does not fail if it fails for none of them. -/
theorem mapTargetsM_eq_ok {ε : Type} {f : α → Except ε β} {g : α → β} {i : Instruction α}
    (h : ∀ a ∈ i.targets, f a = .ok (g a)) : i.mapTargetsM f = .ok (i.mapTargets g) := by
  cases i <;>
    simp only [targets, List.mem_cons, List.not_mem_nil, or_false, forall_eq_or_imp, forall_eq]
      at h <;>
    simp [mapTargetsM, mapTargets, Id.run, h, bind, Except.bind, pure, Except.pure]

end Instruction

/-! ## Cursors -/

/-- A point of a program: the number of instructions, of counters and of marks before it. -/
structure Cursor where
  ip : Nat
  counters : Nat
  marks : Nat
  deriving DecidableEq, Repr

namespace Cursor

/-- The point behind `count` more instructions. -/
def advance (c : Cursor) (count : Nat) : Cursor :=
  { c with ip := c.ip + count }

/-- The start of a program. -/
def start : Cursor := ⟨0, 0, 0⟩

/-- No code and no register of `c` lies behind `c'`. -/
structure Le (c c' : Cursor) : Prop where
  ip : c.ip ≤ c'.ip
  counters : c.counters ≤ c'.counters
  marks : c.marks ≤ c'.marks

/-- Points of a program are ordered by what comes before them. -/
theorem Le.refl (c : Cursor) : c.Le c := ⟨Nat.le_refl _, Nat.le_refl _, Nat.le_refl _⟩

theorem Le.trans {a b c : Cursor} (h : a.Le b) (h' : b.Le c) : a.Le c :=
  ⟨Nat.le_trans h.ip h'.ip, Nat.le_trans h.counters h'.counters, Nat.le_trans h.marks h'.marks⟩

/-- More code is never a step back. -/
theorem le_advance (c : Cursor) (count : Nat) : c.Le (c.advance count) :=
  ⟨Nat.le_add_right _ _, Nat.le_refl _, Nat.le_refl _⟩

@[simp] theorem ip_advance (c : Cursor) (n : Nat) : (c.advance n).ip = c.ip + n := rfl

@[simp] theorem counters_advance (c : Cursor) (n : Nat) :
    (c.advance n).counters = c.counters := rfl

@[simp] theorem marks_advance (c : Cursor) (n : Nat) : (c.advance n).marks = c.marks := rfl

end Cursor

/-! ## Code at an index -/

namespace Program

variable {p : Program}

/-- The instructions `l` stand in the program from index `ip` on. -/
def CodeAt (p : Program) : Nat → List (Instruction Nat) → Prop
  | _, [] => True
  | ip, i :: l => p.code[ip]? = some i ∧ p.CodeAt (ip + 1) l

/-- Code in two parts stands somewhere if the first part does and the second one right behind it. -/
theorem codeAt_append {ip : Nat} {l l' : List (Instruction Nat)} :
    p.CodeAt ip (l ++ l') ↔ p.CodeAt ip l ∧ p.CodeAt (ip + l.length) l' := by
  induction l generalizing ip with
  | nil => simp [CodeAt]
  | cons i l ih =>
    rw [List.cons_append, CodeAt, CodeAt, ih, List.length_cons, and_assoc,
      show ip + 1 + l.length = ip + (l.length + 1) by omega]

/-- The instructions `l` stand in the program between two indices. -/
def Segment (p : Program) (ip : Nat) (l : List (Instruction Nat)) (stop : Nat) : Prop :=
  p.CodeAt ip l ∧ stop = ip + l.length

/-- A segment does not end in front of its start. -/
theorem Segment.le {ip stop : Nat} {l : List (Instruction Nat)} (h : p.Segment ip l stop) :
    ip ≤ stop := by
  rw [h.2]
  exact Nat.le_add_right _ _

theorem Segment.eq_of_nil {ip stop : Nat} (h : p.Segment ip [] stop) : stop = ip := h.2

/-- Two segments in a row, with the place where they meet. -/
theorem segment_append {ip stop : Nat} {l l' : List (Instruction Nat)} :
    p.Segment ip (l ++ l') stop ↔ ∃ middle, p.Segment ip l middle ∧ p.Segment middle l' stop := by
  simp only [Segment, codeAt_append, List.length_append]
  constructor
  · rintro ⟨⟨first, second⟩, rfl⟩
    exact ⟨_, ⟨first, rfl⟩, second, (Nat.add_assoc _ _ _).symm⟩
  · rintro ⟨_, ⟨first, rfl⟩, second, rfl⟩
    exact ⟨⟨first, second⟩, Nat.add_assoc _ _ _⟩

/-- Code stands somewhere if each of its instructions does. -/
theorem codeAt_of_getElem? {ip : Nat} {l : List (Instruction Nat)}
    (h : ∀ n i, l[n]? = some i → p.code[ip + n]? = some i) : p.CodeAt ip l := by
  induction l generalizing ip with
  | nil => trivial
  | cons i l ih =>
    refine ⟨h 0 i rfl, ih ?_⟩
    intro n j found
    -- the instructions behind the first one are numbered from the next index on
    rw [Nat.add_assoc, Nat.add_comm 1 n]
    exact h (n + 1) j found

/-- Each instruction of code is found as far behind its start as it is inside the code. -/
theorem getElem?_of_codeAt {ip : Nat} {l : List (Instruction Nat)} (h : p.CodeAt ip l) {n : Nat}
    (inside : n < l.length) : p.code[ip + n]? = l[n]? := by
  induction l generalizing ip n with
  | nil => exact absurd inside (Nat.not_lt_zero n)
  | cons i l ih =>
    cases n with
    | zero => exact h.1
    | succ n =>
      rw [show ip + (n + 1) = ip + 1 + n by omega, List.getElem?_cons_succ]
      exact ih h.2 (Nat.lt_of_succ_lt_succ inside)

/-- A program is what stands in it, if that is all there is. -/
theorem toList_of_codeAt {l : List (Instruction Nat)} (h : p.CodeAt 0 l)
    (size : p.code.size = l.length) : p.code.toList = l := by
  apply List.ext_getElem?
  intro n
  by_cases inside : n < l.length
  · have here := getElem?_of_codeAt h inside
    rwa [Nat.zero_add, ← Array.getElem?_toList] at here
  · have behind : p.code.toList.length ≤ n := by
      rw [Array.length_toList, size]
      exact Nat.le_of_not_lt inside
    rw [List.getElem?_eq_none behind, List.getElem?_eq_none (Nat.le_of_not_lt inside)]

end Program

/-! ## Assembling -/

namespace Builder

/-- How much has been written. -/
def cursor (b : Builder) : Cursor := ⟨b.code.size, b.counters.size, b.marks⟩

/-- The place of a label, or 0 if it has none. -/
def placeOf (b : Builder) (label : Label) : Nat :=
  (b.labels[label.index]?.join).getD 0

/-- Every jump goes to a label that the builder made. -/
def Known (b : Builder) : Prop :=
  ∀ i ∈ b.code.toList, ∀ a ∈ i.targets, a.index < b.labels.size

/-- Every label that the builder made has a place. -/
def Placed (b : Builder) : Prop :=
  ∀ n < b.labels.size, ∃ place, b.labels[n]? = some (some place)

/-- The program of a builder, with the places of labels for the labels. -/
def finished (b : Builder) : Program :=
  ⟨b.code.map (·.mapTargets b.placeOf), b.strings, b.counters, b.marks⟩

/-- A label that was made has a place once all of them have. -/
theorem resolve_eq_ok {b : Builder} (placed : b.Placed) {label : Label}
    (known : label.index < b.labels.size) : b.resolve label = .ok (b.placeOf label) := by
  rcases placed label.index known with ⟨place, found⟩
  simp [resolve, placeOf, found]

theorem mapM_eq_ok {α β ε : Type} {f : α → Except ε β} {g : α → β} {l : List α}
    (h : ∀ a ∈ l, f a = .ok (g a)) : l.mapM f = .ok (l.map g) := by
  induction l with
  | nil => rfl
  | cons a l ih =>
    rw [List.mapM_cons, h a (by simp), ih fun b mem => h b (by simp [mem])]
    rfl

/-- A builder that has placed all its labels can be assembled. -/
theorem assemble_eq_ok {b : Builder} (known : b.Known) (placed : b.Placed) :
    b.assemble = .ok b.finished := by
  have resolved : b.code.toList.mapM (fun i => i.mapTargetsM b.resolve) =
      .ok (b.code.toList.map (·.mapTargets b.placeOf)) := by
    refine mapM_eq_ok ?_
    intro i mem
    refine Instruction.mapTargetsM_eq_ok ?_
    intro a target
    exact resolve_eq_ok placed (known i mem a target)
  rw [assemble, Array.mapM_eq_mapM_toList, resolved, ← Array.toList_map]
  rfl

end Builder

end GraphemeRegex
