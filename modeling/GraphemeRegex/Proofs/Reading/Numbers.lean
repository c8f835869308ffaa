import GraphemeRegex.Proofs.Reading.Digits
import GraphemeRegex.Reading.Escape
import Mathlib.Tactic.FinCases

/-! # Numbers — the escapes that hold a number

Digits of any length in an escape denote their exact value. What an escape stands for is settled by
that value alone: for a scalar by whether it is a code point, for a reference by the bits that the
number of a group has.

* `Radix.Denotes`: what a text in braces gives, as a scalar or as a fault.
* `Escape.exists_denotes_readBraced`: digits in braces, with blanks around them or without.
* `Escape.Signed`, `Escape.ByNumber`: the ways to write a reference by number.
* `Escape.readReferenceBody_append`: the digits of a reference.
* `Escape.numbers_read_exactly`: all escapes that hold a number of any length.
-/

namespace GraphemeRegex

variable {radix : Radix} {text digits run : Text} {x more : List Text}

/-! ## Scalars -/

namespace Radix

/-- One digit of the radix or more. -/
structure IsNumeral (radix : Radix) (digits : Text) : Prop where
  filled : digits ≠ []
  digits : ∀ c ∈ digits, radix.isDigit c = true

/-- What a text in braces gives. Where digits stand between its blanks, their value says which
scalar it is. -/
structure Denotes (radix : Radix) (text : Text) (result : Except ReadFault Char) : Prop where
  noNumeral : ¬ radix.IsNumeral (Escape.trim text) → result = .error (.notANumber text radix)
  overflow : radix.IsNumeral (Escape.trim text) →
    (result = .error (.numberOverflow (Escape.trim text)) ↔
      0x100000000 ≤ radix.value (Escape.trim text))
  scalar : radix.IsNumeral (Escape.trim text) → ∀ c,
    (result = .ok c ↔ c.toNat = radix.value (Escape.trim text))
  invalid : radix.IsNumeral (Escape.trim text) →
    (result = .error (.invalidScalar (radix.value (Escape.trim text))) ↔
      radix.value (Escape.trim text) < 0x100000000 ∧
        ¬ (radix.value (Escape.trim text)).isValidChar)

/-- Digits are too many, the number of no scalar, or that of one. -/
theorem scalar_of_isNumeral (h : radix.IsNumeral digits) :
    radix.scalar digits =
      if 0x100000000 ≤ radix.value digits then .error (.numberOverflow digits)
      else if (radix.value digits).isValidChar then .ok (Char.ofNat (radix.value digits))
      else .error (.invalidScalar (radix.value digits)) := by
  rw [scalar, number, List.isEmpty_eq_false_iff.2 h.filled]
  by_cases large : 0x100000000 ≤ radix.value digits
  · simp [large, Nat.not_lt.2 large, bind, Except.bind]
  · simp [large, Nat.not_le.1 large, bind, Except.bind, scalarOfValue]

/-- Code points are in range. -/
theorem lt_of_isValidChar {n : Nat} (valid : n.isValidChar) : n < 0x100000000 := by
  rcases valid with low | high <;> omega

/-- A code point is the number of one scalar. -/
theorem toNat_ofNat_eq_iff {n : Nat} (valid : n.isValidChar) {c : Char} :
    Char.ofNat n = c ↔ c.toNat = n := by
  constructor
  · rintro rfl
    rw [Char.ofNat, dif_pos valid]
    rfl
  · rintro rfl
    exact Char.ofNat_toNat c

/-- Digits give the scalar of their value, and otherwise one of two faults. -/
theorem denotes_of_isNumeral (h : radix.IsNumeral (Escape.trim text)) :
    radix.Denotes text (radix.scalar (Escape.trim text)) := by
  rw [scalar_of_isNumeral h]
  generalize value : radix.value (Escape.trim text) = v
  have noScalar (invalid : ¬ v.isValidChar) (c : Char) : c.toNat ≠ v := by
    rintro rfl
    exact invalid c.valid
  -- the value is too large for a number, or a number that may be a code point
  by_cases large : 0x100000000 ≤ v
  · have invalid : ¬ v.isValidChar := fun valid => Nat.not_le.2 (lt_of_isValidChar valid) large
    rw [if_pos large]
    refine ⟨absurd h, fun _ => ?_, fun _ c => ?_, fun _ => ?_⟩
    · simp [value, large]
    · simpa [value] using noScalar invalid c
    · simp [value, Nat.not_lt.2 large]
  · rw [if_neg large]
    by_cases valid : v.isValidChar
    · rw [if_pos valid]
      refine ⟨absurd h, fun _ => ?_, fun _ c => ?_, fun _ => ?_⟩
      · simp [value, large]
      · rw [value, Except.ok.injEq, toNat_ofNat_eq_iff valid]
      · simp [value, valid]
    · rw [if_neg valid]
      refine ⟨absurd h, fun _ => ?_, fun _ c => ?_, fun _ => ?_⟩
      · simp [value, large]
      · simpa [value] using noScalar valid c
      · simp [value, valid, Nat.not_le.1 large]

/-- Anything else in braces is refused as it is written. -/
theorem denotes_of_not_isNumeral (h : ¬ radix.IsNumeral (Escape.trim text)) :
    radix.Denotes text (.error (.notANumber text radix)) :=
  ⟨fun _ => rfl, fun yes => absurd yes h, fun yes => absurd yes h, fun yes => absurd yes h⟩

/-- The test that is made of digits. -/
theorem isNumeral_iff :
    radix.IsNumeral digits ↔ (digits.isEmpty || !digits.all radix.isDigit) = false := by
  rw [Bool.or_eq_false_iff, List.isEmpty_eq_false_iff, Bool.not_eq_false', List.all_eq_true]
  exact ⟨fun h => ⟨h.filled, h.digits⟩, fun ⟨filled, all⟩ => ⟨filled, all⟩⟩

instance : Decidable (radix.IsNumeral digits) :=
  decidable_of_iff _ isNumeral_iff.symm

end Radix

namespace Escape

/-- The text in braces reaches up to the first closing brace. -/
theorem spanWhile_append_brace (o : Nat) (more : List Text) (closed : ['\x7d'] ∉ x) :
    (⟨o, x ++ ['\x7d'] :: more⟩ : Input).spanWhile (· != ['\x7d']) =
      (x.flatten, ⟨o + Text.byteLength x.flatten, ['\x7d'] :: more⟩) := by
  apply Input.spanWhile_append
  · intro unit mem
    rw [bne_iff_ne]
    rintro rfl
    exact closed mem
  · rintro unit ⟨⟩
    rfl

/-- Up to the closing brace, the text says what is read. -/
theorem exists_denotes_readBraced (radix : Radix) (start o : Nat) (more : List Text)
    (closed : ['\x7d'] ∉ x) :
    ∃ result, radix.Denotes x.flatten result ∧
      readBraced radix start ⟨o, x ++ ['\x7d'] :: more⟩ =
        (result.mapError
          (⟨·, start, o + Text.byteLength x.flatten + '\x7d'.utf8Size⟩)).map
            (·, ⟨o + Text.byteLength x.flatten + '\x7d'.utf8Size, more⟩) := by
  rw [readBraced, spanWhile_append_brace o more closed]
  -- the text is tested first, and then its value
  by_cases numeral : radix.IsNumeral (trim x.flatten)
  · refine ⟨_, Radix.denotes_of_isNumeral numeral, ?_⟩
    simp only [Input.expect_cons, bind, Except.bind, Radix.isNumeral_iff.1 numeral]
    cases radix.scalar (trim x.flatten) <;> rfl
  · have refused := eq_true_of_ne_false (mt Radix.isNumeral_iff.2 numeral)
    refine ⟨_, Radix.denotes_of_not_isNumeral numeral, ?_⟩
    simp only [Input.expect_cons, bind, Except.bind, refused]
    rfl

/-- The letters in front of digits in braces, and the radix of the digits. -/
inductive ByCodePoint : Char → Radix → Prop where
  | x : ByCodePoint 'x' .hex
  | u : ByCodePoint 'u' .hex
  | o : ByCodePoint 'o' .octal

/-- The letter behind a backslash decides what an escape stands for. -/
theorem read_of_letter {letter : Char} (other : letter ≠ 'Q') (start : Nat) (units : List Text) :
    read false ⟨start, ['\\'] :: [letter] :: units⟩ =
      (readAtom false letter start ⟨start + '\\'.utf8Size, [letter] :: units⟩).map
        fun (a, i) => (.atom a, i) := by
  have atom : read false ⟨start, ['\\'] :: [letter] :: units⟩ = (do
      let (a, i) ← readAtom false letter start ⟨start + '\\'.utf8Size, [letter] :: units⟩
      return (.atom a, i)) := by
    simp [read]
  rw [atom]
  cases readAtom false letter start ⟨start + '\\'.utf8Size, [letter] :: units⟩ <;> rfl

/-- The letters in front of braces differ in the radix only. -/
theorem readAtom_of_byCodePoint {letter : Char} (h : ByCodePoint letter radix) (start o : Nat)
    (units : List Text) :
    readAtom false letter start ⟨o, [letter] :: ['\x7b'] :: units⟩ =
      (readBraced radix start ⟨o + letter.utf8Size + '\x7b'.utf8Size, units⟩).map
        fun (c, i) => (.scalar c, i) := by
  have atom : readAtom false letter start ⟨o, [letter] :: ['\x7b'] :: units⟩ = readAtom.scalar
      (readBraced radix start ⟨o + letter.utf8Size + '\x7b'.utf8Size, units⟩) := by
    cases h <;> rfl
  rw [atom]
  cases readBraced radix start ⟨o + letter.utf8Size + '\x7b'.utf8Size, units⟩ <;> rfl

/-! ## References -/

/-- The signs of a number that refers to a group. A number with a sign has one bit less. -/
inductive Signed : Text → Nat → (Nat → Reference) → Prop where
  | absolute : Signed [] 0x100000000 .absolute
  | later : Signed ['+'] 0x80000000 fun n => .relative n
  | earlier : Signed ['-'] 0x80000000 fun n => .relative (-n)

/-- What stands before and behind the digits of a reference, the bound below which its number must
stay, and the reference by that number. -/
inductive ByNumber : Text → Text → Nat → (Nat → Reference) → Prop where
  | digits : ByNumber [] [] 0x100000000 .absolute
  | bare {sign : Text} {bound : Nat} {reference : Nat → Reference}
      (h : Signed sign bound reference) : ByNumber ('g' :: sign) [] bound reference
  | braced {sign : Text} {bound : Nat} {reference : Nat → Reference}
      (h : Signed sign bound reference) :
      ByNumber ('g' :: '\x7b' :: sign) ['\x7d'] bound reference

variable {sign : Text} {bound : Nat} {reference : Nat → Reference}

/-- A number with a sign must fit into the bits that are left. -/
theorem relativeNumber_of_isRun (h : run.IsRun) (negative : Bool) :
    relativeNumber negative run =
      if Radix.decimal.value run < 0x80000000 then
        .ok (if negative then -(Radix.decimal.value run : Int) else Radix.decimal.value run)
      else .error (.numberOverflow run) := by
  rw [relativeNumber, Radix.number_of_isRun h]
  generalize Radix.decimal.value run = v
  by_cases fits : v < 0x100000000
  · simp [fits, bind, Except.bind]
    rfl
  · have large : ¬ v < 0x80000000 := by omega
    simp [fits, large, bind, Except.bind]

/-- Behind a sign stands a relative number. -/
theorem readReferenceBody_sign (negative braced : Bool) (start o : Nat) (units : List Text) :
    readReferenceBody braced start ⟨o, [if negative then '-' else '+'] :: units⟩ = (do
      let (digits, i) := (⟨o + '-'.utf8Size, units⟩ : Input).spanDigits .decimal
      let n ← i.locate start (relativeNumber negative digits)
      return (.relative n, i)) := by
  cases negative <;> rfl

/-- Digits without a sign are an absolute number. -/
theorem readReferenceBody_run (h : run.IsRun) (braced : Bool) (start o : Nat) (more : List Text) :
    readReferenceBody braced start ⟨o, run.map ([·]) ++ more⟩ = (do
      let (digits, i) := (⟨o, run.map ([·]) ++ more⟩ : Input).spanDigits .decimal
      let n ← i.locate start (Radix.decimal.number digits)
      return (.absolute n, i)) := by
  obtain ⟨c, rest, rfl⟩ := List.exists_cons_of_ne_nil h.filled
  have digit : Radix.decimal.isDigitUnit [c] = true := Radix.isDigit_of_isRun h c List.mem_cons_self
  have minus : c ≠ '-' := h.ne_of_cons (by decide)
  have plus : c ≠ '+' := h.ne_of_cons (by decide)
  simp [readReferenceBody, minus, plus, digit]

/-- A run of digits is read to its end, with the sign before it. -/
theorem readReferenceBody_append (h : Signed sign bound reference) (digits : run.IsRun)
    (stop : Text.EndsRun more) (braced : Bool) (start o : Nat) :
    readReferenceBody braced start ⟨o, (sign ++ run).map ([·]) ++ more⟩ =
      if Radix.decimal.value run < bound then
        .ok (reference (Radix.decimal.value run), ⟨o + Text.byteLength (sign ++ run), more⟩)
      else .error ⟨.numberOverflow run, start, o + Text.byteLength (sign ++ run)⟩ := by
  have span (o : Nat) := Input.spanDigits_append (o := o) (Radix.isDigit_of_isRun digits) stop
  -- both signs at once
  have signed (negative : Bool) :
      readReferenceBody braced start
          ⟨o, [if negative then '-' else '+'] :: (run.map ([·]) ++ more)⟩ =
        if Radix.decimal.value run < 0x80000000 then
          .ok (.relative
              (if negative then -(Radix.decimal.value run : Int) else Radix.decimal.value run),
            ⟨o + ('-'.utf8Size + Text.byteLength run), more⟩)
        else
          .error ⟨.numberOverflow run, start, o + ('-'.utf8Size + Text.byteLength run)⟩ := by
    rw [readReferenceBody_sign, span, ← Nat.add_assoc]
    dsimp only
    rw [relativeNumber_of_isRun digits]
    split <;> rfl
  cases h with
  | absolute =>
    rw [List.nil_append, readReferenceBody_run digits, span]
    dsimp only
    rw [Radix.number_of_isRun digits]
    split <;> rfl
  | later => exact signed false
  | earlier => exact signed true

/-- Without a letter before them, digits are read like those behind one. -/
theorem readBackreference_run (h : run.IsRun) (start o : Nat) (more : List Text) :
    readBackreference start ⟨o, run.map ([·]) ++ more⟩ =
      readReferenceBody false start ⟨o, run.map ([·]) ++ more⟩ := by
  rw [readReferenceBody_run h]
  rfl

/-- Without braces, the reference is what the sign and the digits say. -/
theorem readReference_bare (h : Signed sign bound reference) (digits : run.IsRun) (start o : Nat)
    (more : List Text) :
    readReference start ⟨o, (sign ++ run).map ([·]) ++ more⟩ =
      readReferenceBody false start ⟨o, (sign ++ run).map ([·]) ++ more⟩ := by
  have noBrace : (⟨o, (sign ++ run).map ([·]) ++ more⟩ : Input).accept? '\x7b' = none := by
    apply Input.accept?_of_ne
    cases h with
    | absolute =>
      obtain ⟨c, rest, rfl⟩ := List.exists_cons_of_ne_nil digits.filled
      have brace : c ≠ '\x7b' := digits.ne_of_cons (by decide)
      simpa using brace
    | later | earlier => exact nofun
  rw [readReference, noBrace]

/-- With braces, the closing one ends the digits. -/
theorem readReference_braced (h : Signed sign bound reference) (digits : run.IsRun) (start o : Nat)
    (more : List Text) :
    readReference start ⟨o, ['\x7b'] :: ((sign ++ run).map ([·]) ++ ['\x7d'] :: more)⟩ =
      if Radix.decimal.value run < bound then
        .ok (reference (Radix.decimal.value run),
          ⟨o + Text.byteLength ('\x7b' :: (sign ++ run ++ ['\x7d'])), more⟩)
      else
        .error ⟨.numberOverflow run, start, o + Text.byteLength ('\x7b' :: (sign ++ run))⟩ := by
  -- the brace ends the digits
  have stop : Text.EndsRun (['\x7d'] :: more) := Text.endsRun_cons (by decide) more
  rw [readReference, Input.accept?_cons]
  dsimp only
  rw [readReferenceBody_append h digits stop]
  split
  · simp [bind, Except.bind, Nat.add_assoc]
    rfl
  · simp [bind, Except.bind, Nat.add_assoc]

/-- The letter `g` begins a reference. -/
theorem readAtom_g (start o : Nat) (units : List Text) :
    readAtom false 'g' start ⟨o, ['g'] :: units⟩ =
      (readReference start ⟨o + 'g'.utf8Size, units⟩).map fun (r, i) => (.backreference r, i) := by
  have atom : readAtom false 'g' start ⟨o, ['g'] :: units⟩ = (do
      let (r, i) ← readReference start ⟨o + 'g'.utf8Size, units⟩
      return (.backreference r, i)) := rfl
  rw [atom]
  cases readReference start ⟨o + 'g'.utf8Size, units⟩ <;> rfl

/-- A digit other than zero begins a reference. -/
theorem readAtom_digit {c : Char} (low : '1' ≤ c) (high : c ≤ '9') (start : Nat) (i : Input) :
    readAtom false c start i =
      (readBackreference start i).map fun (r, i) => (.backreference r, i) := by
  have below : c.toNat < 58 := Nat.lt_succ_of_le high
  have digits : ∀ n < 58, 49 ≤ n → Char.ofNat n ∈ "123456789".toList := by decide
  have digit : c ∈ "123456789".toList := Char.ofNat_toNat c ▸ digits c.toNat below low
  have atom : readAtom false c start i = (do
      let (r, i) ← readBackreference start i
      return (.backreference r, i)) := by
    fin_cases digit <;> rfl
  rw [atom]
  cases readBackreference start i <;> rfl

/-! ## All escapes with numbers -/

/-- Between braces, the text says which scalar an escape stands for. -/
theorem exists_denotes_read {letter : Char} (h : ByCodePoint letter radix) (start : Nat)
    (more : List Text) (closed : ['\x7d'] ∉ x) :
    ∃ result, radix.Denotes x.flatten result ∧
      read false ⟨start, ['\\'] :: [letter] :: ['\x7b'] :: (x ++ ['\x7d'] :: more)⟩ =
        (result.mapError
          (⟨·, start,
            start + Text.byteLength ('\\' :: letter :: '\x7b' :: (x.flatten ++ ['\x7d']))⟩)).map
          fun c => (.atom (.scalar c),
            ⟨start + Text.byteLength ('\\' :: letter :: '\x7b' :: (x.flatten ++ ['\x7d'])),
              more⟩) := by
  have other : letter ≠ 'Q' := by cases h <;> decide
  obtain ⟨result, denotes, braced⟩ := exists_denotes_readBraced radix start
    (start + '\\'.utf8Size + letter.utf8Size + '\x7b'.utf8Size) more closed
  refine ⟨result, denotes, ?_⟩
  rw [read_of_letter other, readAtom_of_byCodePoint h, braced]
  cases result with
  | error fault => simp [Except.mapError, Except.map, Nat.add_assoc]
  | ok c => simp [Except.mapError, Except.map, Nat.add_assoc]

/-- A reference by number is read to its end if the number stays below its bound. -/
theorem read_of_byNumber {before behind : Text} (h : ByNumber before behind bound reference)
    (digits : run.IsRun) (leading : before = [] → run.head? ≠ some '0')
    (stop : Text.EndsRun (behind.map ([·]) ++ more)) (start : Nat) :
    read false ⟨start, ('\\' :: (before ++ run ++ behind)).map ([·]) ++ more⟩ =
      if Radix.decimal.value run < bound then
        .ok (.atom (.backreference (reference (Radix.decimal.value run))),
          ⟨start + Text.byteLength ('\\' :: (before ++ run ++ behind)), more⟩)
      else
        .error ⟨.numberOverflow run, start, start + Text.byteLength ('\\' :: (before ++ run))⟩ := by
  cases h with
  | digits =>
    -- the first digit is the letter of the escape, and is read once more with the others
    have stop : Text.EndsRun more := stop
    have body := readReferenceBody_append .absolute digits stop false start (start + '\\'.utf8Size)
    rw [List.nil_append, ← readBackreference_run digits] at body
    obtain ⟨c, rest, rfl⟩ := List.exists_cons_of_ne_nil digits.filled
    have digit := digits.digits c List.mem_cons_self
    have positive : '1' ≤ c := by
      have zero : c ≠ '0' := fun zero => leading rfl (congrArg some zero)
      exact Nat.lt_of_le_of_ne digit.1 fun same => zero (Char.toNat_inj.1 same.symm)
    have other : c ≠ 'Q' := digits.ne_of_cons (by decide)
    have units : ('\\' :: ([] ++ c :: rest ++ [])).map ([·]) ++ more =
        ['\\'] :: [c] :: (rest.map ([·]) ++ more) := by simp
    rw [units, read_of_letter other, readAtom_digit positive digit.2]
    rw [List.map_cons, List.cons_append] at body
    rw [body]
    split <;> simp [Except.map, Nat.add_assoc]
  | @bare sign _ _ signed =>
    have stop : Text.EndsRun more := stop
    have units : ('\\' :: ('g' :: sign ++ run ++ [])).map ([·]) ++ more =
        ['\\'] :: ['g'] :: ((sign ++ run).map ([·]) ++ more) := by simp
    rw [units, read_of_letter (by decide), readAtom_g, readReference_bare signed digits,
      readReferenceBody_append signed digits stop]
    split <;> simp [Except.map, Nat.add_assoc]
  | @braced sign _ _ signed =>
    have units : ('\\' :: ('g' :: '\x7b' :: sign ++ run ++ ['\x7d'])).map ([·]) ++ more =
        ['\\'] :: ['g'] :: ['\x7b'] :: ((sign ++ run).map ([·]) ++ ['\x7d'] :: more) := by simp
    rw [units, read_of_letter (by decide), readAtom_g, readReference_braced signed digits]
    split <;> simp [Except.map, Nat.add_assoc]

/-- The text between braces says which scalar an escape stands for or which fault it has, and a
reference goes by the exact value of its digits, as long as that stays below its bound. -/
theorem numbers_read_exactly :
    (∀ letter radix, ByCodePoint letter radix → ∀ start (x more : List Text), ['\x7d'] ∉ x →
      ∃ result, radix.Denotes x.flatten result ∧
        read false ⟨start, ['\\'] :: [letter] :: ['\x7b'] :: (x ++ ['\x7d'] :: more)⟩ =
          (result.mapError
            (⟨·, start,
              start + Text.byteLength ('\\' :: letter :: '\x7b' :: (x.flatten ++ ['\x7d']))⟩)).map
            fun c => (.atom (.scalar c),
              ⟨start + Text.byteLength ('\\' :: letter :: '\x7b' :: (x.flatten ++ ['\x7d'])),
                more⟩)) ∧
    (∀ before behind bound reference, ByNumber before behind bound reference →
      ∀ start run more, Text.IsRun run → (before = [] → run.head? ≠ some '0') →
        Text.EndsRun (behind.map ([·]) ++ more) →
        read false ⟨start, ('\\' :: (before ++ run ++ behind)).map ([·]) ++ more⟩ =
          if Radix.decimal.value run < bound then
            .ok (.atom (.backreference (reference (Radix.decimal.value run))),
              ⟨start + Text.byteLength ('\\' :: (before ++ run ++ behind)), more⟩)
          else
            .error
              ⟨.numberOverflow run, start, start + Text.byteLength ('\\' :: (before ++ run))⟩) := by
  refine ⟨fun letter radix letters start x more closed => ?_,
    fun before behind bound reference form start run more digits leading stop => ?_⟩
  · exact exists_denotes_read letters start more closed
  · exact read_of_byNumber form digits leading stop start

/-- Blanks stand around the last code point, a surrogate is no scalar, and the largest numbers of
references are one below what does not fit. -/
theorem read_at_limits :
    read false ⟨0, "\\x\x7b 10FFFF\x7d".toList.map ([·])⟩ =
      .ok (.atom (.scalar (Char.ofNat 0x10ffff)), ⟨11, []⟩) ∧
    read false ⟨0, "\\u\x7bD800\x7d".toList.map ([·])⟩ = .error ⟨.invalidScalar 0xd800, 0, 8⟩ ∧
    read false ⟨0, "\\o\x7b40000000000\x7d".toList.map ([·])⟩ =
      .error ⟨.numberOverflow "40000000000".toList, 0, 15⟩ ∧
    read false ⟨0, "\\o\x7b8\x7d".toList.map ([·])⟩ =
      .error ⟨.notANumber "8".toList .octal, 0, 5⟩ ∧
    read false ⟨0, "\\g-2147483647".toList.map ([·])⟩ =
      .ok (.atom (.backreference (.relative (-2147483647))), ⟨13, []⟩) ∧
    read false ⟨0, "\\g\x7b+2147483648\x7d".toList.map ([·])⟩ =
      .error ⟨.numberOverflow "2147483648".toList, 0, 14⟩ ∧
    read false ⟨0, "\\4294967295a".toList.map ([·])⟩ =
      .ok (.atom (.backreference (.absolute 4294967295)), ⟨11, [['a']]⟩) := by
  obtain ⟨scalars, references⟩ := numbers_read_exactly
  refine ⟨?_, ?_, ?_, ?_, ?_, ?_, ?_⟩
  · obtain ⟨result, denotes, found⟩ := scalars _ _ .x 0 (" 10FFFF".toList.map ([·])) [] (by decide)
    obtain rfl := (denotes.scalar (by decide) (Char.ofNat 0x10ffff)).2 (by decide)
    exact found
  · obtain ⟨result, denotes, found⟩ := scalars _ _ .u 0 ("D800".toList.map ([·])) [] (by decide)
    obtain rfl := (denotes.invalid (by decide)).2 (by decide)
    exact found
  · obtain ⟨result, denotes, found⟩ :=
      scalars _ _ .o 0 ("40000000000".toList.map ([·])) [] (by decide)
    obtain rfl := (denotes.overflow (by decide)).2 (by decide)
    exact found
  · obtain ⟨result, denotes, found⟩ := scalars _ _ .o 0 ("8".toList.map ([·])) [] (by decide)
    obtain rfl := denotes.noNumeral (by decide)
    exact found
  · -- the numbers of references, by the way they are written
    exact references _ _ _ _ (.bare .earlier) 0 "2147483647".toList [] (by decide)
      nofun nofun
  · exact references _ _ _ _ (.braced .later) 0 "2147483648".toList [] (by decide)
      nofun (Text.endsRun_cons (by decide) _)
  · exact references _ _ _ _ .digits 0 "4294967295".toList [['a']] (by decide)
      (by decide) (Text.endsRun_cons (by decide) _)

end Escape

end GraphemeRegex
