import GraphemeRegex.Proofs.Text.Lines
import GraphemeRegex.Text.Quoted

/-! # Quoting — what stands between quotes

Each scalar of a quoted text is shown by itself or by an escape, and none of these begins another
one or the quote at the end. So a quoted text ends where it seems to end, whatever follows it, and
shows one text only.

* `Text.Escape`: the forms in which a scalar is shown.
* `Text.Escape.append_inj`, `Text.quoted_append_inj`: what is shown can be read back.
* `Text.legible_quoted`: quoted texts are legible.
-/

namespace GraphemeRegex

namespace Text

/-! ## Escapes -/

/-- The scalars that are escaped by a letter, with their letters. -/
def escapeLetters : List (Char × Char) :=
  [('\x00', '0'), ('\t', 't'), ('\r', 'r'), ('\n', 'n'), ('"', '"'), ('\\', '\\')]

/-- The letter of code points is no other one's. -/
theorem ne_of_mem_escapeLetters {c l : Char} (mem : (c, l) ∈ escapeLetters) : l ≠ 'u' := by
  have all : ∀ x ∈ escapeLetters, x.2 ≠ 'u' := by decide
  exact all _ mem

/-- The forms in which a scalar can be shown. -/
inductive Escape (c : Char) : Text → Prop where
  | letter {l : Char} (mem : (c, l) ∈ escapeLetters) : Escape c ['\\', l]
  | codePoint : Escape c ('\\' :: 'u' :: '\x7b' :: (Nat.toDigits 16 c.toNat ++ ['\x7d']))
  | itself (backslash : c ≠ '\\') (quote : c ≠ '"') (visible : 0x20 ≤ c.toNat) : Escape c [c]

/-- Control characters are not shown by themselves; there are few, so that is looked up. -/
theorem needsCodePoint_of_control {c : Char} (control : c.toNat < 0x20) :
    needsCodePoint c = true := by
  have all : ∀ n < 0x20, needsCodePoint (Char.ofNat n) = true := by decide +kernel
  have here := all c.toNat control
  rwa [Char.ofNat_toNat] at here

/-- What a scalar is shown by is one of the forms. -/
theorem escape_escapeScalar (c : Char) : Escape c (escapeScalar c).toList := by
  by_cases listed : c ∈ escapeLetters.map Prod.fst
  · obtain ⟨⟨d, l⟩, mem, rfl⟩ := List.mem_map.1 listed
    have all : ∀ x ∈ escapeLetters, (escapeScalar x.1).toList = ['\\', x.2] := by decide
    rw [all _ mem]
    exact .letter mem
  · -- no letter of its own: by its code point, or by itself if it can be seen
    simp only [escapeLetters, List.map_cons, List.map_nil, List.mem_cons, List.not_mem_nil,
      or_false, not_or] at listed
    obtain ⟨nul, tab, ret, feed, quote, backslash⟩ := listed
    rw [escapeScalar, if_neg nul, if_neg tab, if_neg ret, if_neg feed, if_neg quote,
      if_neg backslash]
    by_cases hidden : needsCodePoint c = true
    · have form : ("\\u\x7b" ++ String.ofList (Nat.toDigits 16 c.toNat) ++ "\x7d").toList =
          '\\' :: 'u' :: '\x7b' :: (Nat.toDigits 16 c.toNat ++ ['\x7d']) := by simp
      rw [if_pos hidden, form]
      exact .codePoint
    · rw [if_neg hidden, String.toList_singleton]
      refine .itself backslash quote ?_
      by_contra control
      exact hidden (needsCodePoint_of_control (by omega))

namespace Escape

variable {c d : Char} {u v s t : Text}

/-- Every form is legible. -/
theorem legible (h : Escape c u) : u.Legible := by
  cases h with
  | letter mem =>
    have all : ∀ x ∈ escapeLetters, Legible ['\\', x.2] := by decide
    exact all _ mem
  | codePoint =>
    have opening : Legible ['\\', 'u', '\x7b'] := by decide
    -- hexadecimal digits stand between the braces
    have digits : Legible (Nat.toDigits 16 c.toNat) :=
      legible_toDigits_of_le (by decide) (by decide) c.toNat
    exact legible_append.2 ⟨opening, legible_append.2 ⟨digits, by decide⟩⟩
  | itself _ _ visible =>
    intro e mem
    rw [List.mem_singleton.1 mem]
    exact visible

/-- No form begins like the quote at the end. -/
theorem append_ne_quote (h : Escape c u) : u ++ s ≠ '"' :: t := by
  intro same
  cases h with
  | letter | codePoint => cases same
  | itself _ quote _ => exact quote (List.cons.inj same).1

/-- A form shows one scalar only, and it ends where it seems to end. -/
theorem append_inj (h : Escape c u) (h' : Escape d v) (same : u ++ s = v ++ t) :
    c = d ∧ s = t := by
  cases h with
  | letter mem =>
    cases h' with
    | letter mem' =>
      obtain ⟨letters, rest⟩ := List.cons.inj (List.cons.inj same).2
      have unique : ∀ x ∈ escapeLetters, ∀ y ∈ escapeLetters, x.2 = y.2 → x.1 = y.1 := by decide
      exact ⟨unique _ mem _ mem' letters, rest⟩
    | codePoint =>
      have letter := (List.cons.inj (List.cons.inj same).2).1
      exact absurd letter (ne_of_mem_escapeLetters mem)
    | itself backslash => exact absurd (List.cons.inj same).1.symm backslash
  | codePoint =>
    cases h' with
    | letter mem' =>
      have letter := (List.cons.inj (List.cons.inj same).2).1
      exact absurd letter.symm (ne_of_mem_escapeLetters mem')
    | codePoint =>
      -- the digits end at the brace
      have digits (n : Nat) : ∀ e ∈ Nat.toDigits 16 n, (e != '\x7d') = true := by
        intro e mem
        obtain ⟨d, small, rfl⟩ := exists_digit_of_mem_toDigits (by decide) mem
        have all : ∀ d < 16, (Nat.digitChar d != '\x7d') = true := by decide
        exact all d small
      have bodies : Nat.toDigits 16 c.toNat ++ '\x7d' :: s =
          Nat.toDigits 16 d.toNat ++ '\x7d' :: t := by simpa using same
      have brace {rest : Text} : ∀ a, ('\x7d' :: rest).head? = some a → (a != '\x7d') = false := by
        rintro a ⟨⟩
        rfl
      obtain ⟨numbers, rest⟩ :=
        eq_and_eq_of_append_eq (digits _) (digits _) brace brace bodies
      exact ⟨Char.toNat_inj.1 (Radix.hex.eq_of_toDigits_eq numbers), (List.cons.inj rest).2⟩
    | itself backslash => exact absurd (List.cons.inj same).1.symm backslash
  | itself backslash =>
    cases h' with
    | letter | codePoint => exact absurd (List.cons.inj same).1 backslash
    | itself => exact List.cons.inj same

end Escape

/-! ## Quoted texts -/

/-- A quote, what shows the scalars, and a quote. -/
theorem toList_quoted (text : Text) : text.quoted.toList =
    '"' :: (text.flatMap (fun c => (escapeScalar c).toList) ++ ['"']) := by
  simp [quoted, String.toList_join, List.flatMap_map]

@[simp] theorem legible_quoted (text : Text) : Legible text.quoted.toList := by
  have quote : Legible ['"'] := by decide
  have body : Legible (text.flatMap fun c => (escapeScalar c).toList) := by
    intro c mem
    obtain ⟨d, _, shown⟩ := List.mem_flatMap.1 mem
    exact (escape_escapeScalar d).legible c shown
  rw [toList_quoted]
  exact legible_append.2 ⟨quote, legible_append.2 ⟨body, quote⟩⟩

/-- A quoted text shows one text only, and it ends where it seems to end. -/
theorem quoted_append_inj {x y s t : Text} (same : x.quoted.toList ++ s = y.quoted.toList ++ t) :
    x = y ∧ s = t := by
  simp only [toList_quoted, List.cons_append, List.append_assoc, List.cons.injEq, true_and,
    List.nil_append] at same
  induction x generalizing y with
  | nil =>
    cases y with
    | nil => simpa using same
    | cons d y =>
      rw [List.flatMap_cons, List.append_assoc] at same
      exact absurd same.symm (escape_escapeScalar d).append_ne_quote
  | cons c x ih =>
    cases y with
    -- the one text ends where the other one still shows something
    | nil =>
      rw [List.flatMap_cons, List.append_assoc] at same
      exact absurd same (escape_escapeScalar c).append_ne_quote
    | cons d y =>
      rw [List.flatMap_cons, List.flatMap_cons, List.append_assoc, List.append_assoc] at same
      obtain ⟨rfl, later⟩ := (escape_escapeScalar c).append_inj (escape_escapeScalar d) same
      obtain ⟨rfl, rest⟩ := ih later
      exact ⟨rfl, rest⟩

end Text

end GraphemeRegex
