import GraphemeRegex.Proofs.Reading.Braces
import GraphemeRegex.Proofs.Reading.Numbers
import GraphemeRegex.Proofs.Reading.Spelling
import Mathlib.Control.Basic

/-! # Operands — reading back escapes and amounts

* `Escape.read_plain`: the escape of an atom.
* `Escape.read_plain_quote`: a quote.
* `Quantifier.readAmount?_plain`, `Quantifier.readGreed_plain`: what repeats an operand.
-/

namespace GraphemeRegex

open Input

variable {o start : Nat} {more : Text}

/-! ## Escapes -/

namespace Escape

/-- Nothing is dropped where nothing passes. -/
theorem dropWhile_of_all {test : Char → Bool} {text : Text} (none : ∀ c ∈ text, test c = false) :
    text.dropWhile test = text := by
  cases text with
  | nil => rfl
  | cons c rest => rw [List.dropWhile_cons, none c List.mem_cons_self, if_neg Bool.false_ne_true]

/-- A text without white space stays as it is. -/
theorem trim_of_all {text : Text} (none : ∀ c ∈ text, Property.whiteSpace.holds c = false) :
    trim text = text := by
  have front : text.dropWhile Property.whiteSpace.holds = text := dropWhile_of_all none
  have back : text.reverse.dropWhile Property.whiteSpace.holds = text.reverse := by
    apply dropWhile_of_all
    intro c mem
    exact none c (List.mem_reverse.1 mem)
  rw [trim, front, back, List.reverse_reverse]

/-- The text in front of a closing brace is read back. -/
theorem spanWhile_plain_brace {text : Text} (closed : '\x7d' ∉ text) :
    (plain o (text ++ '\x7d' :: more)).spanWhile (· != ['\x7d']) =
      (text, plain (o + Text.byteLength text) ('\x7d' :: more)) := by
  have unit : ['\x7d'] ∉ text.map ([·]) := by simpa using closed
  have span := spanWhile_append_brace o (more.map ([·])) unit
  rw [flatten_map_singleton] at span
  rw [plain, List.map_append, List.map_cons, span]
  rfl

/-- The letter behind a backslash decides what the escape stands for. -/
theorem read_plain_letter {c : Char} (other : c ≠ 'Q') :
    read false (plain o ('\\' :: c :: more)) =
      (readAtom false c o (plain (o + '\\'.utf8Size) (c :: more))).map
        fun (a, i) => (.atom a, i) :=
  read_of_letter other o (more.map ([·]))

/-! ### Scalars by number -/

/-- Digits have no blanks around them. -/
theorem trim_hexDigits (n : Nat) : trim (Radix.hexDigits n) = Radix.hexDigits n := by
  apply trim_of_all
  intro d mem
  have blank := Radix.of_mem_hexDigits (!Property.whiteSpace.holds ·) mem (by decide)
  exact (Bool.not_eq_true' _).mp blank

/-- The digits of a number are a numeral. -/
theorem isNumeral_hexDigits (n : Nat) : Radix.hex.IsNumeral (Radix.hexDigits n) :=
  ⟨Radix.hexDigits_ne_nil n, fun _ mem => Radix.of_mem_hexDigits Radix.hex.isDigit mem (by decide)⟩

/-- A scalar is read back from its digits in braces. -/
theorem read_plain_scalar (c : Char) :
    ∃ o', read false (plain o (Atom.spell (.scalar c) ++ more)) =
      .ok (.atom (.scalar c), plain o' more) := by
  have closed : ['\x7d'] ∉ (Radix.hexDigits c.toNat).map ([·]) := by
    intro mem
    obtain ⟨d, inside, same⟩ := List.mem_map.1 mem
    obtain rfl := List.singleton_inj.1 same
    exact absurd (Radix.of_mem_hexDigits (· != '\x7d') inside (by decide)) (by decide)
  -- what the text in braces denotes is settled by its value
  obtain ⟨result, denotes, found⟩ := exists_denotes_read .u o (more.map ([·])) closed
  rw [flatten_map_singleton] at denotes found
  have value := denotes.scalar ((trim_hexDigits c.toNat).symm ▸ isNumeral_hexDigits c.toNat) c
  rw [trim_hexDigits, Radix.value_hexDigits] at value
  obtain rfl := value.2 rfl
  have spelling : plain o (Atom.spell (.scalar c) ++ more) =
      ⟨o, ['\\'] :: ['u'] :: ['\x7b'] ::
        ((Radix.hexDigits c.toNat).map ([·]) ++ ['\x7d'] :: more.map ([·]))⟩ := by
    simp [plain, Atom.spell]
  rw [spelling, found]
  exact ⟨_, rfl⟩

/-! ### Properties -/

/-- The name of a property is read back, up to its brace. -/
theorem readProperty_plain (p : Property) (inverted : Bool) (start o : Nat) (more : Text) :
    ∃ o', readProperty inverted start (plain o ('\x7b' :: (p.name.toList ++ '\x7d' :: more))) =
      .ok (.cls ⟨.property p, inverted⟩, plain o' more) := by
  have closed : '\x7d' ∉ p.name.toList := by cases p <;> decide
  have blanks : p.name.toList.all (!Property.whiteSpace.holds ·) = true := by cases p <;> decide
  have trimmed : trim p.name.toList = p.name.toList := by
    apply trim_of_all
    intro c mem
    exact (Bool.not_eq_true' _).mp (List.all_eq_true.1 blanks c mem)
  have found : Property.ofName? p.name.toList = some p := by cases p <;> decide
  have name : readPropertyName start (plain o ('\x7b' :: (p.name.toList ++ '\x7d' :: more))) =
      .ok (p.name.toList,
        plain (o + '\x7b'.utf8Size + Text.byteLength p.name.toList + '\x7d'.utf8Size) more) := by
    rw [readPropertyName, accept?_plain_cons]
    simp only [spanWhile_plain_brace closed, expect_plain_cons, bind, Except.bind]
    rfl
  -- a caret would invert it
  have letter : ∃ c rest, p.name.toList = c :: rest ∧ c ≠ '^' := by
    cases p <;> exact ⟨_, _, rfl, by decide⟩
  obtain ⟨c, rest, split, caret⟩ := letter
  refine ⟨o + '\x7b'.utf8Size + Text.byteLength p.name.toList + '\x7d'.utf8Size, ?_⟩
  rw [readProperty, name]
  rw [split] at trimmed found ⊢
  simp [bind, Except.bind, caret, trimmed, propertyAtom, found]
  rfl

/-- A property is read back, with the letter that says whether it is inverted. -/
theorem read_plain_property (p : Property) (inverted : Bool) :
    ∃ o', read false (plain o (Atom.spell (.cls ⟨.property p, inverted⟩) ++ more)) =
      .ok (.atom (.cls ⟨.property p, inverted⟩), plain o' more) := by
  have spelling : Atom.spell (.cls ⟨.property p, inverted⟩) ++ more =
      '\\' :: (if inverted then 'P' else 'p') :: '\x7b' :: (p.name.toList ++ '\x7d' :: more) := by
    cases inverted <;> simp [Atom.spell, CharClass.spelling]
  have letter (text : Text) : readAtom false (if inverted then 'P' else 'p') o
      (plain (o + '\\'.utf8Size) ((if inverted then 'P' else 'p') :: text)) =
        readProperty inverted o (plain (o + '\\'.utf8Size + 'p'.utf8Size) text) := by
    cases inverted <;> rfl
  obtain ⟨o', property⟩ := readProperty_plain p inverted o
    (o + '\\'.utf8Size + 'p'.utf8Size) more
  rw [spelling, read_plain_letter (by cases inverted <;> decide), letter, property]
  exact ⟨o', rfl⟩

/-! ### Quotes -/

/-- What stands in front of the mark that ends a quote is read back. -/
theorem beforeQuoteEnd_plain {text : Text} (closed : ¬ ['\\', 'E'] <:+: text) :
    beforeQuoteEnd ((text ++ '\\' :: 'E' :: more).map ([·])) = text.map ([·]) := by
  induction text with
  | nil => rfl
  | cons c rest ih =>
    have later : ¬ ['\\', 'E'] <:+: rest := fun inside => closed (List.infix_cons inside)
    -- a backslash in the quote is not followed by an `E`
    have apart : ∀ d tail, rest ++ '\\' :: 'E' :: more = d :: tail → c = '\\' → d ≠ 'E' := by
      rintro d tail behind rfl rfl
      cases rest with
      | nil => cases behind
      | cons e rest =>
        obtain ⟨rfl, _⟩ := List.cons.inj behind
        exact closed ⟨[], rest, rfl⟩
    have step : ∀ units : List Text, (c = '\\' → ∀ d tail, units = d :: tail → d ≠ ['E']) →
        beforeQuoteEnd ([c] :: units) = [c] :: beforeQuoteEnd units := by
      intro units single
      by_cases backslash : c = '\\'
      · cases units with
        | nil => simp [beforeQuoteEnd]
        | cons d tail =>
          have other : d ≠ ['E'] := single backslash d tail rfl
          simp [beforeQuoteEnd, other]
      · simp [beforeQuoteEnd, backslash]
    rw [List.cons_append, List.map_cons, step, ih later, List.map_cons]
    intro backslash d tail behind
    cases text : rest ++ '\\' :: 'E' :: more with
    | nil => simp at text
    | cons e tail' =>
      rw [text, List.map_cons] at behind
      obtain ⟨rfl, _⟩ := List.cons.inj behind
      intro same
      exact apart e tail' text backslash (List.singleton_inj.1 same)

/-- A quote is read back. -/
theorem read_plain_quote (o : Nat) (more : Text) {text : Text} (closed : ¬ ['\\', 'E'] <:+: text) :
    ∃ o', read false (plain o ('\\' :: 'Q' :: (text ++ '\\' :: 'E' :: more))) =
      .ok (.quote text, plain o' more) := by
  have quote : read false (plain o ('\\' :: 'Q' :: (text ++ '\\' :: 'E' :: more))) =
      .ok (.quote (readQuote (plain (o + '\\'.utf8Size + 'Q'.utf8Size)
          (text ++ '\\' :: 'E' :: more))).1,
        (readQuote (plain (o + '\\'.utf8Size + 'Q'.utf8Size)
          (text ++ '\\' :: 'E' :: more))).2) := rfl
  have units (offset : Nat) : (plain offset (text ++ '\\' :: 'E' :: more)).rest =
      (text ++ '\\' :: 'E' :: more).map ([·]) := rfl
  rw [quote, readQuote, units, beforeQuoteEnd_plain closed, List.length_map, skip_plain_append,
    flatten_map_singleton]
  exact ⟨_, rfl⟩

/-! ### Atoms -/

/-- An atom that is written as an escape is read back. -/
theorem read_plain (o : Nat) (more : Text) {a : Atom} (readable : a.isReadable = true)
    (escaped : a.spell.head? = some '\\') :
    ∃ o', read false (plain o (a.spell ++ more)) = .ok (.atom a, plain o' more) := by
  cases a with
  | char text =>
    match text, readable with
    | [c], readable =>
      -- a backslash is not spelled as it is
      obtain rfl : c = '\\' := Option.some.inj escaped
      exact absurd readable (by decide)
  | scalar c => exact read_plain_scalar c
  | any => exact absurd escaped (by decide)
  | cls family =>
    obtain ⟨kind, inverted⟩ := family
    cases kind with
    | property p => exact read_plain_property p inverted
    | anyScalar | hexDigit => cases readable
    | anyCluster =>
      cases inverted with
      | true => cases readable
      | false => exact ⟨_, rfl⟩
    | _ => cases inverted <;> exact ⟨_, rfl⟩
  | anchor a =>
    cases a with
    | startOfLine | endOfLine => exact absurd escaped (by decide)
    | _ => exact ⟨_, rfl⟩
  | property _ _ | backreference _ => cases readable

end Escape

/-! ## Amounts -/

namespace Quantifier

/-- An amount is read back. -/
theorem readAmount?_plain (o : Nat) (more : Text) {amount : Amount}
    (readable : amount.isReadable = true) :
    ∃ o', readAmount? (plain o (amount.spelling.toList ++ more)) =
      some (.ok amount, plain o' more) := by
  -- amounts in braces are read back by the forms that they have
  have bounded {runs : List Text} (form : Braced amount.spelling.toList runs amount)
      (fit : amount.ofRuns runs = .ok amount) :
      ∃ o', readAmount? (plain o (amount.spelling.toList ++ more)) =
        some (.ok amount, plain o' more) := by
    refine ⟨o + Text.byteLength amount.spelling.toList, ?_⟩
    rw [plain, List.map_append, readAmount?_of_braced form, fit]
    rfl
  have fits {n : Nat} (small : n < 0x100000000) (amount : Amount) :
      amount.ofRuns [Nat.toDigits 10 n] = .ok amount := by
    rw [Amount.ofRuns_cons, Radix.value_toDigits_decimal, if_pos small, Amount.ofRuns_nil]
  rw [amount.toList_spelling] at bounded ⊢
  cases amount with
  | zeroOrMore | oneOrMore | zeroOrOne => exact ⟨_, rfl⟩
  | exactly n =>
    have form := Braced.exactly (Radix.isRun_toDigits n)
    rw [Radix.value_toDigits_decimal] at form
    exact bounded form (fits (of_decide_eq_true readable) _)
  | atLeast n =>
    have form := Braced.atLeast (Radix.isRun_toDigits n)
    rw [Radix.value_toDigits_decimal] at form
    exact bounded form (fits (of_decide_eq_true readable) _)
  | atMost m =>
    have form := Braced.atMost (Radix.isRun_toDigits m)
    rw [Radix.value_toDigits_decimal] at form
    exact bounded form (fits (of_decide_eq_true readable) _)
  | between n m =>
    rw [Amount.isReadable, Bool.and_eq_true, decide_eq_true_iff, decide_eq_true_iff] at readable
    have form := Braced.between (Radix.isRun_toDigits n) (Radix.isRun_toDigits m)
    rw [Radix.value_toDigits_decimal, Radix.value_toDigits_decimal] at form
    apply bounded form
    rw [Amount.ofRuns_cons, Radix.value_toDigits_decimal, if_pos readable.1, fits readable.2]

/-- The mark behind an amount is read back. Where there is none, nothing that looks like it may
follow. -/
theorem readGreed_plain (o : Nat) {more : Text} {greed : Greed}
    (calm : greed = .eager → ∀ d, more.head? = some d → d ≠ '?' ∧ d ≠ '+') :
    ∃ o', readGreed (plain o (greed.spelling.toList ++ more)) = (greed, plain o' more) := by
  cases greed with
  | eager =>
    cases more with
    | nil => exact ⟨o, rfl⟩
    | cons d rest =>
      have other := calm rfl d rfl
      refine ⟨o, ?_⟩
      show readGreed (plain o (d :: rest)) = _
      simp [readGreed, other.1, other.2]
  | reluctant | possessive => exact ⟨_, rfl⟩

/-- What is no mark and no brace is no amount. -/
theorem readAmount?_plain_none (o : Nat) (more : Text) {c : Char}
    (other : c ≠ '*' ∧ c ≠ '+' ∧ c ≠ '?' ∧ c ≠ '\x7b') :
    readAmount? (plain o (c :: more)) = none := by
  have noBound : Bound.comesNext (plain o (c :: more)) = false := by
    rw [Bound.comesNext, if_neg]
    intro brace
    exact other.2.2.2 (List.cons.inj (Option.some.inj brace)).1
  simp [readAmount?, other, noBound]

end Quantifier

end GraphemeRegex
