import GraphemeRegex.Proofs.Reading.Digits
import Mathlib.Data.List.Basic

/-! # Lines — texts without control characters, and texts made of them

What is written for a reader has no control characters in its lines, so that a line break ends a
line and an escape character begins a colour, and neither is anything else.

* `Text.Legible`: no control characters of ASCII.
* `Text.lines`, `Text.lines_unlines`: a text falls into the lines that it was made of.
* `Text.getLast?_lines`: the last line is what stands behind the last line break but one.
* `eq_and_eq_of_append_eq`: where a run ends is seen from what follows it.
-/

namespace GraphemeRegex

/-- Where what passes a test ends is seen from what follows it. -/
theorem eq_and_eq_of_append_eq {α : Type} {test : α → Bool} {x y s t : List α}
    (left : ∀ a ∈ x, test a = true) (right : ∀ a ∈ y, test a = true)
    (stop : ∀ a, s.head? = some a → test a = false)
    (stop' : ∀ a, t.head? = some a → test a = false) (same : x ++ s = y ++ t) :
    x = y ∧ s = t := by
  have runs : x = y := by
    rw [← Input.takeWhile_append_of_stop left stop, same,
      Input.takeWhile_append_of_stop right stop']
  subst runs
  exact ⟨rfl, List.append_cancel_left same⟩

namespace Text

/-! ## Legible texts -/

/-- No scalar of the text is a control character of ASCII. -/
def Legible (text : Text) : Prop :=
  ∀ c ∈ text, 0x20 ≤ c.toNat

instance (text : Text) : Decidable text.Legible :=
  List.decidableBAll (fun c : Char => 0x20 ≤ c.toNat) text

@[simp] theorem legible_nil : Legible [] := by
  intro c mem
  cases mem

@[simp] theorem legible_cons {c : Char} {text : Text} :
    Legible (c :: text) ↔ 0x20 ≤ c.toNat ∧ text.Legible :=
  List.forall_mem_cons

@[simp] theorem legible_append {first second : Text} :
    Legible (first ++ second) ↔ first.Legible ∧ second.Legible :=
  List.forall_mem_append

/-- Legible text has no line breaks, and no escapes. -/
theorem Legible.not_mem {text : Text} (h : text.Legible) {c : Char} (control : c.toNat < 0x20) :
    c ∉ text := by
  intro mem
  have above := h c mem
  omega

/-- Digits are legible in any base that numbers are written in. -/
theorem legible_toDigits_of_le {base : Nat} (several : 1 < base) (few : base ≤ 16) (n : Nat) :
    Legible (Nat.toDigits base n) := by
  intro c mem
  obtain ⟨d, small, rfl⟩ := exists_digit_of_mem_toDigits several mem
  have all : ∀ d < 16, 0x20 ≤ (Nat.digitChar d).toNat := by decide
  exact all d (Nat.lt_of_lt_of_le small few)

@[simp] theorem legible_toDigits (n : Nat) : Legible (Nat.toDigits 10 n) :=
  legible_toDigits_of_le (by decide) (by decide) n

/-! ## Lines -/

/-- The lines of a text. A line break ends a line. -/
def lines : Text → List Text
  | [] => []
  | c :: rest =>
    if c = '\n' then [] :: lines rest
    else
      match lines rest with
      | [] => [[c]]
      | line :: later => (c :: line) :: later

/-- The text that is made of lines. -/
def unlines (lines : List Text) : Text :=
  lines.flatMap (· ++ ['\n'])

@[simp] theorem unlines_nil : unlines [] = [] := rfl

/-- Lines behind other lines. -/
theorem unlines_append (first second : List Text) :
    unlines (first ++ second) = unlines first ++ unlines second :=
  List.flatMap_append

/-- The first line and the others. -/
theorem unlines_cons (line : Text) (rest : List Text) :
    unlines (line :: rest) = line ++ '\n' :: unlines rest := by
  rw [unlines, List.flatMap_cons, List.append_assoc]
  rfl

/-- A line ends with the first line break. -/
theorem lines_append_break {line : Text} (unbroken : '\n' ∉ line) (rest : Text) :
    lines (line ++ '\n' :: rest) = line :: lines rest := by
  induction line with
  | nil => simp [lines]
  | cons c line ih =>
    have other : c ≠ '\n' := (List.ne_of_not_mem_cons unbroken).symm
    have later := ih (List.not_mem_of_not_mem_cons unbroken)
    rw [List.cons_append, lines, if_neg other, later]

/-- Text that was made of legible lines falls into these lines. -/
theorem lines_unlines {all : List Text} (legible : ∀ line ∈ all, line.Legible) :
    lines (unlines all) = all := by
  induction all with
  | nil => rfl
  | cons line all ih =>
    obtain ⟨legible, below⟩ := List.forall_mem_cons.1 legible
    rw [unlines_cons, lines_append_break (legible.not_mem (by decide)), ih below]

/-- What is written behind a line break makes lines of its own. -/
theorem exists_lines_append (text rest : Text) :
    ∃ first earlier, lines (text ++ '\n' :: rest) = first :: (earlier ++ lines rest) := by
  induction text with
  | nil => exact ⟨[], [], by simp [lines]⟩
  | cons c text ih =>
    obtain ⟨first, earlier, split⟩ := ih
    by_cases broken : c = '\n'
    · exact ⟨[], first :: earlier, by rw [List.cons_append, lines, if_pos broken, split]; rfl⟩
    · exact ⟨c :: first, earlier, by rw [List.cons_append, lines, if_neg broken, split]⟩

/-- The last line of a text that ends with a line break. -/
theorem getLast?_lines {line : Text} (unbroken : '\n' ∉ line) (before : Text) :
    (lines (before ++ '\n' :: (line ++ ['\n']))).getLast? = some line := by
  obtain ⟨first, earlier, split⟩ := exists_lines_append before (line ++ ['\n'])
  rw [split, lines_append_break unbroken, lines, ← List.cons_append, List.getLast?_concat]

end Text

end GraphemeRegex
