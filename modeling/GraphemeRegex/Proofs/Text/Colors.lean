import GraphemeRegex.Proofs.Text.Lines
import GraphemeRegex.Text.Palette

/-! # Colors — taking the colours out of what is shown

The sequences of a palette begin with the escape character, which no legible text has, and none of
them begins another one. So they can be found again in what is shown, and without them the same
text is left as the plain palette shows.

* `Palette.strip`: a text without the sequences of a palette.
* `Palette.IsEscaping`: the palettes whose sequences can be told from the text.
* `Palette.Strips`: what is left of a text, whatever follows it.
-/

namespace GraphemeRegex

namespace Palette

variable {p : Palette}

/-! ## The plain palette -/

@[simp] theorem inBlue_plain (s : String) : plain.inBlue s = s := by simp [plain, inBlue]

@[simp] theorem inGreen_plain (s : String) : plain.inGreen s = s := by simp [plain, inGreen]

@[simp] theorem inRed_plain (s : String) : plain.inRed s = s := by simp [plain, inRed]

@[simp] theorem dimmed_plain (s : String) : plain.dimmed s = s := by simp [plain, dimmed]

/-! ## Sequences -/

/-- The sequences of a palette. -/
def sequences (p : Palette) : List Text :=
  [p.blue.toList, p.green.toList, p.red.toList, p.dim.toList, p.reset.toList]

/-- Each sequence is empty or begins with the escape character, and no sequence that is not empty
begins another one. -/
def IsEscaping (p : Palette) : Prop :=
  (∀ s ∈ p.sequences, s ≠ [] → s.head? = some '\x1b') ∧
    ∀ s ∈ p.sequences, ∀ t ∈ p.sequences, s ≠ [] → s <+: t → s = t

instance (p : Palette) : Decidable p.IsEscaping :=
  inferInstanceAs (Decidable (_ ∧ _))

/-- The sequence with which a text begins. -/
def sequence? (p : Palette) (text : Text) : Option Text :=
  p.sequences.find? fun s => !s.isEmpty && s.isPrefixOf text

/-- What is left of a text without its first scalars and without the sequences behind them. -/
def stripAfter (p : Palette) : (skip : Nat) → Text → Text
  | _, [] => []
  | skip + 1, _ :: rest => stripAfter p skip rest
  | 0, c :: rest =>
    match p.sequence? (c :: rest) with
    | some s => stripAfter p (s.length - 1) rest
    | none => c :: stripAfter p 0 rest

/-- A text without the sequences of the palette. -/
def strip (p : Palette) (s : String) : String :=
  String.ofList (p.stripAfter 0 s.toList)

/-- The palettes that are used are such palettes. -/
theorem isEscaping_ofBool (wanted : Bool) : (ofBool wanted).IsEscaping := by
  cases wanted <;> decide

/-- The test for a sequence says what it is there for. -/
theorem isSequence_iff {s text : Text} :
    (!s.isEmpty && s.isPrefixOf text) = true ↔ s ≠ [] ∧ s <+: text := by
  rw [Bool.and_eq_true, Bool.not_eq_true', List.isEmpty_eq_false_iff, List.isPrefixOf_iff_prefix]

/-- No sequence begins at a legible scalar. -/
theorem sequence?_of_legible (h : p.IsEscaping) {c : Char} (legible : 0x20 ≤ c.toNat)
    (rest : Text) : p.sequence? (c :: rest) = none := by
  rw [sequence?, List.find?_eq_none]
  intro s mem begins
  obtain ⟨some, later, whole⟩ := isSequence_iff.1 begins
  have escape := h.1 s mem some
  cases s with
  | nil => exact some rfl
  | cons d s =>
    have first : d = '\x1b' := Option.some.inj escape
    have same : d = c := (List.cons.inj whole).1
    subst same first
    exact absurd legible (by decide)

/-- A sequence is found where it stands: no other one begins there. -/
theorem sequence?_append (h : p.IsEscaping) {s : Text} (mem : s ∈ p.sequences) (some : s ≠ [])
    (rest : Text) : p.sequence? (s ++ rest) = .some s := by
  have any : (p.sequence? (s ++ rest)).isSome := by
    rw [sequence?, List.find?_isSome]
    exact ⟨s, mem, isSequence_iff.2 ⟨some, List.prefix_append s rest⟩⟩
  obtain ⟨t, here⟩ := Option.isSome_iff_exists.1 any
  have listed := List.mem_of_find?_eq_some here
  have found := List.find?_some here
  have begins : t ≠ [] ∧ t <+: s ++ rest := isSequence_iff.1 found
  -- of two texts with which a text begins, one begins the other
  have same : s = t := by
    rcases List.prefix_or_prefix_of_prefix (List.prefix_append s rest) begins.2 with less | less
    · exact h.2 s mem t listed some less
    · exact (h.2 t listed s mem begins.1 less).symm
  rw [here, same]

/-! ## What is left -/

/-- Scalars that are to be skipped are skipped. -/
theorem stripAfter_append_length (skipped rest : Text) :
    p.stripAfter skipped.length (skipped ++ rest) = p.stripAfter 0 rest := by
  induction skipped with
  | nil => rfl
  | cons c skipped ih => rw [List.length_cons, List.cons_append, stripAfter, ih]

/-- What is left of a text is the other one, whatever follows. -/
def Strips (p : Palette) (shown text : String) : Prop :=
  ∀ rest, p.stripAfter 0 (shown.toList ++ rest) = text.toList ++ p.stripAfter 0 rest

/-- Two shown texts, one behind the other. -/
theorem Strips.append {shown text shown' text' : String} (h : p.Strips shown text)
    (h' : p.Strips shown' text') : p.Strips (shown ++ shown') (text ++ text') := by
  intro rest
  rw [String.toList_append, String.toList_append, List.append_assoc, h, h', List.append_assoc]

/-- With nothing behind it, a shown text is stripped to the other one. -/
theorem Strips.strip_eq {shown text : String} (h : p.Strips shown text) : p.strip shown = text := by
  have whole := h []
  rw [List.append_nil, stripAfter, List.append_nil] at whole
  rw [strip, whole, String.ofList_toList]

section

variable (h : p.IsEscaping) {s : String}

include h

/-- Legible text has nothing to take out. -/
theorem strips_of_legible (legible : Text.Legible s.toList) : p.Strips s s := by
  intro rest
  generalize s.toList = text at legible ⊢
  induction text with
  | nil => rfl
  | cons c text ih =>
    obtain ⟨visible, legible⟩ := Text.legible_cons.1 legible
    have here := sequence?_of_legible h visible (text ++ rest)
    have later := ih legible
    rw [List.cons_append, stripAfter, here]
    show c :: p.stripAfter 0 (text ++ rest) = _
    rw [later, List.cons_append]

/-- Nothing is left of a sequence. -/
theorem strips_sequence (mem : s.toList ∈ p.sequences) : p.Strips s "" := by
  intro rest
  generalize s.toList = text at mem ⊢
  cases text with
  | nil => rfl
  | cons c text =>
    have here := sequence?_append h mem (List.cons_ne_nil c text) rest
    rw [List.cons_append] at here ⊢
    rw [stripAfter, here]
    exact stripAfter_append_length text rest

/-- A text between a sequence and the one that ends it. -/
theorem strips_between {first : String} (mem : first.toList ∈ p.sequences)
    (legible : Text.Legible s.toList) : p.Strips (first ++ s ++ p.reset) s := by
  have reset : p.reset.toList ∈ p.sequences := by simp [sequences]
  have parts := ((strips_sequence h mem).append (strips_of_legible h legible)).append
    (strips_sequence h reset)
  rwa [String.empty_append, String.append_empty] at parts

/-- Legible text in a colour is left without the colour; the same for the other colours that are
used. -/
theorem strips_inGreen (legible : Text.Legible s.toList) : p.Strips (p.inGreen s) s :=
  strips_between h (by simp [sequences]) legible

theorem strips_inRed (legible : Text.Legible s.toList) : p.Strips (p.inRed s) s :=
  strips_between h (by simp [sequences]) legible

theorem strips_dimmed (legible : Text.Legible s.toList) : p.Strips (p.dimmed s) s :=
  strips_between h (by simp [sequences]) legible

end

end Palette

end GraphemeRegex
