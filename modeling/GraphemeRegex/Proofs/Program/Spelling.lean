import GraphemeRegex.Program.Listing
import GraphemeRegex.Proofs.Text.Colors
import GraphemeRegex.Proofs.Text.Quoting
import Mathlib.Data.List.Nodup

/-! # Spelling — how instructions are written

The operation of an instruction is written without blanks and its operands behind a blank, so that
the one can be told from the others. Operands are numbers behind a letter, quoted texts and classes,
and each of them ends where the next one begins.

* `Text.IsWord`, `Text.EndsWord`: what has no blanks, and what can follow it.
* `CharClass.spelling_inj`: different classes are written differently.
* `Instruction.legible_spelling`: what is written is legible.
* `Instruction.eq_of_line_eq`: an instruction can be read back from its line.
-/

namespace GraphemeRegex

/-! ## Words and numbers -/

namespace Text

/-- The text has no blanks and no control characters. -/
def IsWord (text : Text) : Prop :=
  ∀ c ∈ text, 0x20 < c.toNat

instance (text : Text) : Decidable text.IsWord :=
  List.decidableBAll (fun c : Char => 0x20 < c.toNat) text

/-- Words are legible. -/
theorem IsWord.legible {text : Text} (h : text.IsWord) : text.Legible :=
  fun c mem => Nat.le_of_lt (h c mem)

/-- The text is empty or begins with a blank, so that a word in front of it ends there. -/
def EndsWord (text : Text) : Prop :=
  ∀ c, text.head? = some c → c = ' '

theorem endsWord_nil : EndsWord [] := by
  intro c first
  cases first

/-- A blank ends a word. -/
theorem endsWord_blank (rest : Text) : EndsWord (' ' :: rest) := by
  intro c first
  exact (Option.some.inj first).symm

theorem EndsWord.append {first second : Text} (h : first.EndsWord) (h' : second.EndsWord) :
    EndsWord (first ++ second) := by
  cases first with
  | nil => exact h'
  | cons c first => exact h

/-- What is not a blank cannot begin here, such as a digit. -/
theorem EndsWord.not_of_head? {text : Text} {test : Char → Bool} (h : text.EndsWord)
    (other : test ' ' = false) : ∀ c, text.head? = some c → test c = false := by
  intro c first
  rw [h c first]
  exact other

/-- A word ends where a blank follows. -/
theorem IsWord.append_inj {x y s t : Text} (h : x.IsWord) (h' : y.IsWord) (ends : s.EndsWord)
    (ends' : t.EndsWord) (same : x ++ s = y ++ t) : x = y ∧ s = t := by
  have visible {text : Text} (word : text.IsWord) :
      ∀ c ∈ text, decide (0x20 < c.toNat) = true := by
    intro c mem
    exact decide_eq_true (word c mem)
  exact eq_and_eq_of_append_eq (visible h) (visible h') (ends.not_of_head? (by decide))
    (ends'.not_of_head? (by decide)) same

/-- A number ends where no digit follows. -/
theorem toDigits_append_inj {m n : Nat} {s t : Text}
    (stop : ∀ c, s.head? = some c → Radix.decimal.isDigit c = false)
    (stop' : ∀ c, t.head? = some c → Radix.decimal.isDigit c = false)
    (same : Nat.toDigits 10 m ++ s = Nat.toDigits 10 n ++ t) : m = n ∧ s = t := by
  have digits (k : Nat) : ∀ c ∈ Nat.toDigits 10 k, Radix.decimal.isDigit c = true := by
    intro c mem
    exact Radix.isDigit_of_mem_toDigits mem
  have parts := eq_and_eq_of_append_eq (digits m) (digits n) stop stop' same
  exact ⟨Radix.decimal.eq_of_toDigits_eq parts.1, parts.2⟩

/-- A number can be read back from its digits. -/
@[simp] theorem toDigits_inj {m n : Nat} : Nat.toDigits 10 m = Nat.toDigits 10 n ↔ m = n := by
  constructor
  · exact Radix.decimal.eq_of_toDigits_eq
  · exact congrArg _

/-- A number in front of a comma can be read back, with what follows. -/
@[simp] theorem toDigits_append_comma_inj {m n : Nat} {s t : Text} :
    Nat.toDigits 10 m ++ ',' :: s = Nat.toDigits 10 n ++ ',' :: t ↔ m = n ∧ s = t := by
  have stop {rest : Text} :
      ∀ c, (',' :: rest).head? = some c → Radix.decimal.isDigit c = false := by
    rintro c ⟨⟩
    decide
  constructor
  · intro same
    obtain ⟨numbers, later⟩ := toDigits_append_inj stop stop same
    exact ⟨numbers, (List.cons.inj later).2⟩
  · rintro ⟨rfl, rfl⟩
    rfl

end Text

/-! ## Classes -/

namespace CharClass

/-- The families of scalars. -/
def kinds : List ClassKind :=
  [.anyScalar, .anyCluster, .digit, .hexDigit, .whitespace, .horizontalWhitespace,
    .verticalWhitespace, .newlineSequence, .word, .property .any, .property .alphabetic,
    .property .lowercase, .property .uppercase, .property .numeric, .property .alphanumeric,
    .property .whiteSpace, .property .control, .property .ascii]

/-- The classes: each family and what is outside it. -/
def classes : List CharClass :=
  kinds.flatMap fun kind => [⟨kind, false⟩, ⟨kind, true⟩]

/-- There are no others. -/
theorem mem_classes (cls : CharClass) : cls ∈ classes := by
  obtain ⟨kind, inverted⟩ := cls
  cases kind with
  | property p => cases p <;> cases inverted <;> decide
  | _ => cases inverted <;> decide

/-- Different classes are written differently. There are finitely many of them, so that is looked
up. -/
theorem spelling_inj {cls other : CharClass}
    (same : cls.spelling.toList = other.spelling.toList) : cls = other := by
  have different : (classes.map (·.spelling.toList)).Nodup := by decide +kernel
  exact List.inj_on_of_nodup_map different (mem_classes cls) (mem_classes other) same

/-- No class is written with blanks. -/
theorem isWord_spelling (cls : CharClass) : Text.IsWord cls.spelling.toList := by
  have all : ∀ cls ∈ classes, Text.IsWord cls.spelling.toList := by decide +kernel
  exact all cls (mem_classes cls)

@[simp] theorem legible_spelling (cls : CharClass) : Text.Legible cls.spelling.toList :=
  cls.isWord_spelling.legible

end CharClass

/-! ## Operands -/

attribute [ext] CounterId MarkId StringId

@[simp] theorem CounterId.toList_spelling (r : CounterId) :
    r.spelling.toList = 'R' :: Nat.toDigits 10 r.index := by
  simp [spelling]

@[simp] theorem MarkId.toList_spelling (r : MarkId) :
    r.spelling.toList = 'P' :: Nat.toDigits 10 r.index := by
  simp [spelling]

@[simp] theorem StringId.toList_spelling (id : StringId) :
    id.spelling.toList = 'S' :: Nat.toDigits 10 id.index := by
  simp [spelling]

@[simp] theorem toList_addressSpelling (index : Nat) :
    (addressSpelling index).toList = '@' :: Nat.toDigits 10 index := by
  simp [addressSpelling]

namespace Instruction

/-- The level of an instruction can be read back from what stands behind it. -/
theorem levelSuffix_inj {level other : MatchLevel}
    (same : (levelSuffix level).toList = (levelSuffix other).toList) : level = other := by
  cases level <;> cases other <;> simp [levelSuffix] at same ⊢

@[simp] theorem legible_levelSuffix (level : MatchLevel) :
    Text.Legible (levelSuffix level).toList := by
  cases level <;> decide

/-- The level does not run into what is in front of it. -/
theorem endsWord_levelSuffix (level : MatchLevel) : Text.EndsWord (levelSuffix level).toList := by
  cases level with
  | grapheme => exact Text.endsWord_nil
  | scalar => exact Text.endsWord_blank _

/-- No operation is written with blanks, so the first blank ends it. -/
theorem isWord_mnemonic (i : Instruction Nat) : Text.IsWord i.mnemonic.toList := by
  cases i <;> simp only [mnemonic] <;> decide

/-- Operands begin with the blank that ends the operation. -/
theorem endsWord_operands (i : Instruction Nat) : Text.EndsWord i.operands.toList := by
  cases i with
  | cut rewind => cases rewind <;> simp [operands, Text.endsWord_nil, Text.endsWord_blank]
  | _ => simp [operands, Text.endsWord_nil, Text.endsWord_blank]

/-- The operands have no control characters. -/
theorem legible_operands (i : Instruction Nat) : Text.Legible i.operands.toList := by
  cases i with
  | cut rewind => cases rewind <;> simp [operands]
  | _ => simp [operands]

/-- Behind the instruction that matches a string stands the string itself. -/
theorem toList_remark_matchString (p : Program) (id : StringId) (level : MatchLevel) :
    (p.remark .plain (.matchString id level)).toList =
      ' ' :: ' ' :: ((p.strings.get? id).getD []).quoted.toList := by
  simp [Program.remark]

/-- What is written behind the operation determines the operands. -/
theorem eq_of_operands_eq {p q : Program} {i j : Instruction Nat}
    (operations : i.mnemonic = j.mnemonic)
    (same : i.operands.toList ++ (p.remark .plain i).toList =
      j.operands.toList ++ (q.remark .plain j).toList) : i = j := by
  cases i with
  | matchText text level =>
    cases j with
    | matchText text' level' =>
      simp only [operands, Program.remark, String.toList_append, String.toList_empty,
        List.append_nil, List.append_assoc] at same
      obtain ⟨rfl, suffixes⟩ := Text.quoted_append_inj (List.append_cancel_left same)
      obtain rfl := levelSuffix_inj suffixes
      rfl
    | _ => simp [mnemonic] at operations
  | matchString id level =>
    cases j with
    | matchString id' level' =>
      simp only [operands, toList_remark_matchString, String.toList_append,
        StringId.toList_spelling, List.append_assoc, List.cons_append] at same
      have behind := (List.cons.inj (List.append_cancel_left same)).2
      have ends (level : MatchLevel) (rest : Text) :
          Text.EndsWord ((levelSuffix level).toList ++ ' ' :: rest) :=
        (endsWord_levelSuffix level).append (Text.endsWord_blank rest)
      obtain ⟨numbers, later⟩ := Text.toDigits_append_inj
        ((ends level _).not_of_head? (by decide)) ((ends level' _).not_of_head? (by decide)) behind
      obtain rfl : id = id' := StringId.ext numbers
      cases level <;> cases level' <;> simp [levelSuffix] at later ⊢
    | _ => simp [mnemonic] at operations
  | consume cls level =>
    cases j with
    | consume cls' level' =>
      simp only [operands, Program.remark, String.toList_append, String.toList_empty,
        List.append_nil, List.append_assoc] at same
      obtain ⟨spellings, suffixes⟩ := cls.isWord_spelling.append_inj cls'.isWord_spelling
        (endsWord_levelSuffix level) (endsWord_levelSuffix level') (List.append_cancel_left same)
      obtain rfl := CharClass.spelling_inj spellings
      obtain rfl := levelSuffix_inj suffixes
      rfl
    | _ => simp [mnemonic] at operations
  | cut rewind =>
    cases j with
    | cut rewind' =>
      cases rewind <;> cases rewind' <;> simp [operands, Program.remark] at same ⊢
    | _ => simp [mnemonic] at operations
  -- the other operands are numbers
  | _ =>
    cases j <;> simp_all [mnemonic, operands, Program.remark, CounterId.ext_iff, MarkId.ext_iff]

/-! ## Instructions -/

/-- Operation and operands together. -/
theorem legible_spelling (i : Instruction Nat) : Text.Legible i.spelling.toList := by
  rw [spelling, String.toList_append, Text.legible_append]
  exact ⟨i.isWord_mnemonic.legible, i.legible_operands⟩

/-- A remark stands behind blanks. -/
theorem endsWord_remark (p : Program) (i : Instruction Nat) :
    Text.EndsWord (p.remark .plain i).toList := by
  cases i with
  | matchString id level =>
    rw [toList_remark_matchString]
    exact Text.endsWord_blank _
  | _ => exact Text.endsWord_nil

/-- A remark is a quoted text, which escapes control characters. -/
theorem legible_remark (p : Program) (i : Instruction Nat) :
    Text.Legible (p.remark .plain i).toList := by
  cases i with
  | matchString id level =>
    rw [toList_remark_matchString]
    simp
  | _ => exact Text.legible_nil

/-- An instruction can be read back from its line. -/
theorem eq_of_line_eq {p q : Program} {i j : Instruction Nat}
    (same : (i.spelling ++ p.remark .plain i).toList = (j.spelling ++ q.remark .plain j).toList) :
    i = j := by
  simp only [spelling, String.toList_append, List.append_assoc] at same
  obtain ⟨operations, later⟩ := i.isWord_mnemonic.append_inj j.isWord_mnemonic
    (i.endsWord_operands.append (endsWord_remark p i))
    (j.endsWord_operands.append (endsWord_remark q j)) same
  exact eq_of_operands_eq (String.toList_inj.1 operations) later

end Instruction

end GraphemeRegex
