import GraphemeRegex.Proofs.Program.Layout

/-! # Drafts — what a builder keeps while it is written to

A builder only ever grows: what stands in it stays, and a label that has a place keeps it. So a
finished program that agrees with the last builder agrees with every one before it.

* `Builder.RealizedBy`: a program holds everything that a builder holds.
* `Builder.Drafts`: one builder comes from another by writing, up to labels that still wait for
  their place.
* `Builder.Drafts.append`, `Builder.Drafts.newLabel`, `Builder.Drafts.place`: how drafts go on.
-/

namespace GraphemeRegex

namespace Instruction

variable {α : Type}

/-- The counters that an instruction uses. -/
def counters : Instruction α → List CounterId
  | condBranch _ counter | reset counter => [counter]
  | _ => []

/-- The marks that an instruction uses. -/
def marks : Instruction α → List MarkId
  | mark m | unmark m | checkProgress _ m => [m]
  | _ => []

/-- The constant texts that an instruction refers to. -/
def strings : Instruction α → List StringId
  | matchString string _ => [string]
  | _ => []

end Instruction

namespace Builder

/-! ## Growing -/

/-- The builder made every label and register that an instruction names. -/
structure Allows (b : Builder) (i : Instruction Label) : Prop where
  targets : ∀ a ∈ i.targets, a.index < b.labels.size
  counters : ∀ r ∈ i.counters, r.index < b.counters.size
  marks : ∀ r ∈ i.marks, r.index < b.marks

/-- `b'` has every label and register of `b`. -/
structure Grows (b b' : Builder) : Prop where
  labels : b.labels.size ≤ b'.labels.size
  counters : b.counters.size ≤ b'.counters.size
  marks : b.marks ≤ b'.marks

/-- Nothing has been made. -/
theorem Grows.refl (b : Builder) : b.Grows b :=
  ⟨Nat.le_refl _, Nat.le_refl _, Nat.le_refl _⟩

theorem Grows.trans {a b c : Builder} (h : a.Grows b) (h' : b.Grows c) : a.Grows c :=
  ⟨Nat.le_trans h.labels h'.labels, Nat.le_trans h.counters h'.counters,
    Nat.le_trans h.marks h'.marks⟩

/-- An instruction that is allowed stays so. -/
theorem Allows.mono {b b' : Builder} {i : Instruction Label} (h : b.Allows i)
    (grows : b.Grows b') : b'.Allows i where
  targets a mem := Nat.lt_of_lt_of_le (h.targets a mem) grows.labels
  counters r mem := Nat.lt_of_lt_of_le (h.counters r mem) grows.counters
  marks r mem := Nat.lt_of_lt_of_le (h.marks r mem) grows.marks

/-- An instruction without registers only needs its labels. -/
theorem allows_of_targets {b : Builder} {i : Instruction Label} (counters : i.counters = [])
    (marks : i.marks = []) (targets : ∀ a ∈ i.targets, a.index < b.labels.size) :
    b.Allows i where
  targets := targets
  counters := by simp [counters]
  marks := by simp [marks]

/-- An instruction without any operands of the builder is allowed anywhere. -/
theorem allows_of_free {b : Builder} {i : Instruction Label}
    (h : i.targets = [] ∧ i.counters = [] ∧ i.marks = []) : b.Allows i :=
  allows_of_targets h.2.1 h.2.2 (by simp [h.1])

/-- What is allowed is not refused. -/
theorem emit_eq_ok {b : Builder} {i : Instruction Label} (h : b.Allows i) :
    b.emit i = .ok { b with code := b.code.push i } := by
  rcases h with ⟨targets, counters, marks⟩
  have checked : b.checkOperands i = .ok () := by
    cases i <;>
      simp only [Instruction.targets, Instruction.counters, Instruction.marks, List.mem_cons,
        List.not_mem_nil, or_false, forall_eq_or_imp, forall_eq] at targets counters marks <;>
      simp [checkOperands, checkLabel, checkCounter, checkMark, targets, counters, marks, bind,
        Except.bind]
  rw [emit, checked]
  rfl

/-! ## Realizing -/

/-- A program holds everything that a builder holds, with `place` giving the place of labels. -/
structure RealizedBy (b : Builder) (p : Program) (place : Label → Nat) : Prop where
  code : ∀ (n : Nat) (i : Instruction Label),
    b.code[n]? = some i → p.code[n]? = some (i.mapTargets place)
  places : ∀ (a : Label) (n : Nat), b.labels[a.index]? = some (some n) → place a = n
  counters : ∀ n v : Nat, b.counters[n]? = some v → p.counters[n]? = some v
  marks : b.marks ≤ p.marks
  strings : ∀ (n : Nat) (text : Text),
    b.strings.texts[n]? = some text → p.strings.texts[n]? = some text

/-- A builder is realized by the program that it is assembled to. -/
theorem realizedBy_finished (b : Builder) : b.RealizedBy b.finished b.placeOf where
  code n i found := by simp [finished, found]
  places a n found := by simp [placeOf, found]
  counters n v found := found
  marks := Nat.le_refl _
  strings n text found := found

/-! ## Drafts -/

/-- Something that is said about a program and the places of labels in it. -/
abbrev Facts := Program → (Label → Nat) → Prop

/-- `b'` comes from `b` by writing. The labels in `pending` have been made since and have no place
yet, all the other new ones have one; every program that realizes `b'` satisfies `facts`. -/
structure Drafts (b b' : Builder) (pending : List Label) (facts : Facts) : Prop where
  ip : b.code.size ≤ b'.code.size
  grows : b.Grows b'
  old : ∀ n < b.labels.size, b'.labels[n]? = b.labels[n]?
  new : ∀ n, b.labels.size ≤ n → n < b'.labels.size → ⟨n⟩ ∉ pending →
    ∃ place, b'.labels[n]? = some (some place)
  pending : ∀ a ∈ pending, b.labels.size ≤ a.index ∧ b'.labels[a.index]? = some none
  known : b.Known → b'.Known
  realized : ∀ p place, b'.RealizedBy p place → b.RealizedBy p place ∧ facts p place

namespace Drafts

variable {a b c : Builder} {pending : List Label} {facts facts' : Facts}

theorem refl (b : Builder) : b.Drafts b [] fun _ _ => True where
  ip := Nat.le_refl _
  grows := .refl b
  old _ _ := rfl
  new _ low high := absurd high (Nat.not_lt.2 low)
  pending _ mem := absurd mem List.not_mem_nil
  known := id
  realized _ _ h := ⟨h, trivial⟩

/-- What is said about the program may be replaced by what follows from it. -/
theorem imp (d : a.Drafts b pending facts)
    (h : ∀ p place, b.RealizedBy p place → facts p place → facts' p place) :
    a.Drafts b pending facts' :=
  { d with
    realized := fun p place r => ⟨(d.realized p place r).1, h p place r (d.realized p place r).2⟩ }

/-- A label that still waits for its place is one that the builder made. -/
theorem index_lt (d : a.Drafts b pending facts) {label : Label} (mem : label ∈ pending) :
    label.index < b.labels.size := by
  rcases Array.getElem?_eq_some_iff.1 (d.pending label mem).2 with ⟨found, _⟩
  exact found

/-- A draft goes on with one that leaves no label without a place. -/
theorem append (d : a.Drafts b pending facts) (d' : b.Drafts c [] facts') :
    a.Drafts c pending fun p place => facts p place ∧ facts' p place where
  ip := Nat.le_trans d.ip d'.ip
  grows := d.grows.trans d'.grows
  old n low := by
    rw [d'.old n (Nat.lt_of_lt_of_le low d.grows.labels), d.old n low]
  new n low high waits := by
    -- a label of the second part is new to it; one of the first part keeps its place
    by_cases inside : n < b.labels.size
    · rcases d.new n low inside waits with ⟨place, found⟩
      exact ⟨place, (d'.old n inside).trans found⟩
    · exact d'.new n (Nat.not_lt.1 inside) high List.not_mem_nil
  pending label mem := by
    rcases d.pending label mem with ⟨low, found⟩
    exact ⟨low, (d'.old _ (d.index_lt mem)).trans found⟩
  known h := d'.known (d.known h)
  realized p place r := by
    rcases d'.realized p place r with ⟨r', later⟩
    rcases d.realized p place r' with ⟨r'', earlier⟩
    exact ⟨r'', earlier, later⟩

/-- A new label waits for its place behind the others. -/
theorem newLabel (d : a.Drafts b pending facts) :
    a.Drafts b.newLabel.2 (pending ++ [b.newLabel.1]) facts where
  ip := d.ip
  grows := ⟨by simpa [Builder.newLabel] using Nat.le_succ_of_le d.grows.labels,
    d.grows.counters, d.grows.marks⟩
  old n low := by
    have inside : n < b.labels.size := Nat.lt_of_lt_of_le low d.grows.labels
    rw [← d.old n low]
    simp [Builder.newLabel, Array.getElem?_push, Nat.ne_of_lt inside]
  new n low high waits := by
    simp only [Builder.newLabel, Array.size_push, List.mem_append, List.mem_singleton, not_or,
      Label.mk.injEq] at high waits
    rcases d.new n low (by omega) waits.1 with ⟨place, found⟩
    exact ⟨place, by simp [Builder.newLabel, Array.getElem?_push, waits.2, found]⟩
  pending label mem := by
    rcases List.mem_append.1 mem with mem | mem
    · rcases d.pending label mem with ⟨low, found⟩
      have inside := d.index_lt mem
      exact ⟨low, by simp [Builder.newLabel, Array.getElem?_push, Nat.ne_of_lt inside, found]⟩
    · rw [List.mem_singleton.1 mem]
      exact ⟨d.grows.labels, by simp [Builder.newLabel]⟩
  known h i mem target found := by
    have inside := d.known h i mem target found
    simp only [Builder.newLabel, Array.size_push]
    omega
  realized p place r := by
    refine d.realized p place ?_
    constructor
    case code => exact r.code
    case counters => exact r.counters
    case marks => exact r.marks
    case strings => exact r.strings
    case places =>
      -- a label with a place was made before the new one
      intro target n found
      rcases Array.getElem?_eq_some_iff.1 found with ⟨inside, _⟩
      refine r.places target n ?_
      simp [Builder.newLabel, Array.getElem?_push, Nat.ne_of_lt inside, found]

/-- The first label that waits for its place can be given one. -/
theorem place {label : Label} (d : a.Drafts b (label :: pending) facts) (fresh : label ∉ pending) :
    ∃ c, b.place label = .ok c ∧ b.Grows c ∧ c.cursor = b.cursor ∧
      a.Drafts c pending fun p place => facts p place ∧ place label = b.code.size := by
  rcases d.pending label (by simp) with ⟨low, found⟩
  have inside := d.index_lt (List.mem_cons_self (a := label))
  refine ⟨{ b with labels := b.labels.setIfInBounds label.index (some b.code.size) },
    ?_, ?_, rfl, ?_⟩
  · rw [Builder.place, found]
  · exact ⟨by simp, Nat.le_refl _, Nat.le_refl _⟩
  · constructor
    case ip => exact d.ip
    case grows => exact ⟨by simpa using d.grows.labels, d.grows.counters, d.grows.marks⟩
    case old =>
      intro n small
      rw [← d.old n small, Array.getElem?_setIfInBounds_ne (by omega)]
    case new =>
      intro n large small waits
      -- the placed label has a place now, and the others have what they had
      by_cases same : label.index = n
      · exact ⟨b.code.size, by simp [← same, inside]⟩
      · rw [Array.size_setIfInBounds] at small
        have placed : ⟨n⟩ ∉ label :: pending := by
          rw [List.mem_cons, not_or]
          refine ⟨?_, waits⟩
          rintro rfl
          exact same rfl
        rcases d.new n large small placed with ⟨place, stands⟩
        exact ⟨place, by rw [Array.getElem?_setIfInBounds_ne same, stands]⟩
    case pending =>
      intro other mem
      rcases d.pending other (List.mem_cons_of_mem _ mem) with ⟨large, waits⟩
      -- labels that still wait are others
      have differ : label.index ≠ other.index := by
        intro same
        have : label = other := by
          cases label
          cases other
          exact congrArg Label.mk same
        exact fresh (this ▸ mem)
      exact ⟨large, by rw [Array.getElem?_setIfInBounds_ne differ, waits]⟩
    case known =>
      intro h i mem target stands
      simpa using d.known h i mem target stands
    case realized =>
      intro p place r
      -- to the builder before, no label that had a place has lost it
      have earlier : b.RealizedBy p place := by
        constructor
        case code => exact r.code
        case counters => exact r.counters
        case marks => exact r.marks
        case strings => exact r.strings
        case places =>
          intro target n stands
          have differ : label.index ≠ target.index := by
            intro same
            rw [← same, found] at stands
            cases stands
          refine r.places target n ?_
          rw [Array.getElem?_setIfInBounds_ne differ, stands]
      have placed : place label = b.code.size := by
        refine r.places label _ ?_
        simp [inside]
      rcases d.realized p place earlier with ⟨before, holds⟩
      exact ⟨before, holds, placed⟩

end Drafts

/-! ## Writing code, registers and texts -/

/-- Instructions that the builder allows can be written. -/
theorem drafts_code (b : Builder) {l : List (Instruction Label)} (h : ∀ i ∈ l, b.Allows i) :
    b.Drafts { b with code := b.code ++ l.toArray } [] fun p place =>
      p.CodeAt b.code.size (l.map (·.mapTargets place)) where
  ip := by simp
  grows := ⟨Nat.le_refl _, Nat.le_refl _, Nat.le_refl _⟩
  old _ _ := rfl
  new _ low high := absurd high (Nat.not_lt.2 low)
  pending _ mem := absurd mem List.not_mem_nil
  known known i mem target found := by
    simp only [Array.toList_append, List.mem_append] at mem
    -- an instruction from before or one of the new ones
    rcases mem with mem | mem
    · exact known i mem target found
    · exact (h i mem).targets target found
  realized p place r := by
    constructor
    · constructor
      case places => exact r.places
      case counters => exact r.counters
      case marks => exact r.marks
      case strings => exact r.strings
      case code =>
        intro n i found
        rcases Array.getElem?_eq_some_iff.1 found with ⟨inside, _⟩
        refine r.code n i ?_
        rw [Array.getElem?_append_left inside, found]
    · -- the new ones stand behind all others
      refine Program.codeAt_of_getElem? ?_
      intro n i found
      rcases by simpa using found with ⟨j, stands, rfl⟩
      exact r.code _ _ (by simp [Array.getElem?_append, stands])

/-- Registers can be made. -/
theorem drafts_registers (b : Builder) (initials : List Nat) (marks : Nat) :
    b.Drafts { b with counters := b.counters ++ initials.toArray, marks := b.marks + marks } []
      fun p _ => (∀ n v : Nat, initials[n]? = some v → p.counters[b.counters.size + n]? = some v) ∧
        b.marks + marks ≤ p.marks where
  ip := Nat.le_refl _
  grows := ⟨Nat.le_refl _, by simp, Nat.le_add_right _ _⟩
  old _ _ := rfl
  new _ low high := absurd high (Nat.not_lt.2 low)
  pending _ mem := absurd mem List.not_mem_nil
  known := id
  realized p place r := by
    refine ⟨?_, ?_, r.marks⟩
    · constructor
      case code => exact r.code
      case places => exact r.places
      case marks => exact Nat.le_trans (Nat.le_add_right _ _) r.marks
      case strings => exact r.strings
      case counters =>
        intro n v found
        rcases Array.getElem?_eq_some_iff.1 found with ⟨inside, _⟩
        refine r.counters n v ?_
        rw [Array.getElem?_append_left inside, found]
    · -- new counters stand behind the others
      intro n v found
      exact r.counters _ _ (by simp [Array.getElem?_append, found])

/-- A constant text can be interned, and its number leads to it in the program. -/
theorem drafts_intern (b : Builder) (text : Text) :
    b.Drafts (b.intern text).2 [] fun p _ => p.strings.get? (b.intern text).1 = some text where
  ip := Nat.le_refl _
  grows := ⟨Nat.le_refl _, Nat.le_refl _, Nat.le_refl _⟩
  old _ _ := rfl
  new _ low high := absurd high (Nat.not_lt.2 low)
  pending _ mem := absurd mem List.not_mem_nil
  known := id
  realized p place r := by
    constructor
    · constructor
      case code => exact r.code
      case places => exact r.places
      case counters => exact r.counters
      case marks => exact r.marks
      case strings =>
        intro n other found
        refine r.strings n other ?_
        simp only [intern, StringTable.intern]
        split
        · -- the text was there before, so the table is as it was
          exact found
        · rcases Array.getElem?_eq_some_iff.1 found with ⟨inside, _⟩
          simp [Array.getElem?_push, Nat.ne_of_lt inside, found]
    · exact r.strings _ _ (StringTable.get?_intern b.strings text)

end Builder

end GraphemeRegex
