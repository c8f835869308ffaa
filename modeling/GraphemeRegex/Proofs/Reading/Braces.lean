import GraphemeRegex.Proofs.Reading.Digits
import GraphemeRegex.Reading.Parse
import Mathlib.Control.Basic
import Mathlib.Data.Option.Basic

/-! # Braces — the bounds that are written in braces

A brace opens a bound if it begins one of the four forms `{n}`, `{n,}`, `{,m}` and `{n,m}`, with
runs of digits of any length. The units are gone over twice: first a bound is looked for, without
reading anything, and then it is read without looking for its braces again. Both agree on all units.
Such a bound is read to its closing brace, even if a number in it does not fit; any other brace is a
character.

* `Braced`: the forms, with the runs of digits in them and the amounts that they stand for.
* `Amount.ofRuns`: what becomes of an amount whose numbers may not fit.
* `Bound.comesNext_iff_read`: what is looked for is what is read.
* `Bound.read_of_braced`, `Bound.comesNext_iff`: the bounds that are found and read are the forms.
* `Reading.braces_read_exactly`: what a brace between operands is read as.
-/

namespace GraphemeRegex

/-! ## Forms -/

/-- The text of a bound, the runs of digits in it from left to right, and its amount. -/
inductive Braced : Text → List Text → Amount → Prop where
  | exactly {n : Text} (run : n.IsRun) :
    Braced ('\x7b' :: (n ++ ['\x7d'])) [n] (.exactly (Radix.decimal.value n))
  | atLeast {n : Text} (run : n.IsRun) :
    Braced ('\x7b' :: (n ++ [',', '\x7d'])) [n] (.atLeast (Radix.decimal.value n))
  | atMost {m : Text} (run : m.IsRun) :
    Braced ('\x7b' :: ',' :: (m ++ ['\x7d'])) [m] (.atMost (Radix.decimal.value m))
  | between {n m : Text} (run : n.IsRun) (run' : m.IsRun) :
    Braced ('\x7b' :: (n ++ ',' :: (m ++ ['\x7d']))) [n, m]
      (.between (Radix.decimal.value n) (Radix.decimal.value m))

/-- The amount, if all numbers that were written for it fit; otherwise the first that does not is
the fault. -/
def Amount.ofRuns (amount : Amount) (runs : List Text) : Except ReadFault Amount :=
  match runs.find? (0x100000000 ≤ Radix.decimal.value ·) with
  | some run => .error (.numberOverflow run)
  | none => .ok amount

theorem Amount.ofRuns_nil (amount : Amount) : amount.ofRuns [] = .ok amount := rfl

theorem Amount.ofRuns_cons (amount : Amount) (run : Text) (runs : List Text) :
    amount.ofRuns (run :: runs) =
      if Radix.decimal.value run < 0x100000000 then amount.ofRuns runs
      else .error (.numberOverflow run) := by
  rw [ofRuns, ofRuns]
  by_cases fits : Radix.decimal.value run < 0x100000000
  · simp [fits, Nat.not_le.2 fits]
  · simp [fits, Nat.not_lt.1 fits]

variable {o : Nat} {text low high : Text} {runs : List Text} {amount : Amount}
  {more units : List Text} {i : Input}

/-! ## Looking ahead and reading -/

/-- How a bound is written. -/
def Bound.spelling (bound : Bound) : Text :=
  '\x7b' :: (bound.low ++ ((if bound.comma then [','] else []) ++ (bound.high ++ ['\x7d'])))

/-- Behind a brace come digits and, where a comma follows them, digits again. -/
theorem Bound.exists_parts (units : List Text) :
    ∃ (low : Text) (more : List Text), units = low.map ([·]) ++ more ∧
      (∀ c ∈ low, Radix.decimal.isDigit c = true) ∧ Text.EndsRun more ∧
        (more.head? ≠ some [','] ∨ ∃ (high : Text) (more' : List Text),
          more = [','] :: (high.map ([·]) ++ more') ∧
            (∀ c ∈ high, Radix.decimal.isDigit c = true) ∧ Text.EndsRun more') := by
  obtain ⟨low, more, split, digits, stop⟩ := Radix.exists_run units
  refine ⟨low, more, split, digits, stop, ?_⟩
  by_cases comma : more.head? = some [',']
  · obtain ⟨rest, rfl⟩ := List.head?_eq_some_iff.1 comma
    obtain ⟨high, more', rfl, digits', stop'⟩ := Radix.exists_run rest
    exact .inr ⟨high, more', rfl, digits', stop'⟩
  · exact .inl comma

namespace Bound

/-- Looking ahead passes over a whole run of digits. -/
theorem skipDigits_append (index passed : Nat)
    (digits : ∀ c ∈ low, Radix.decimal.isDigit c = true) (stop : Text.EndsRun more) :
    skipDigits (low.map ([·]) ++ more) index passed =
      (index + low.length, passed + low.length) := by
  induction low generalizing index passed with
  | nil =>
    cases more with
    | nil => rfl
    | cons unit more =>
      -- the run has ended
      have other : Radix.decimal.isDigitUnit unit = false :=
        Radix.isDigitUnit_of_endsRun stop rfl
      rw [List.map_nil, List.nil_append, skipDigits, other, if_neg Bool.false_ne_true]
      rfl
  | cons c low ih =>
    obtain ⟨here, others⟩ := List.forall_mem_cons.1 digits
    have digit : Radix.decimal.isDigitUnit [c] = true := here
    rw [List.map_cons, List.cons_append, skipDigits, if_pos digit, ih _ _ others,
      List.length_cons, Nat.add_assoc, Nat.add_assoc, Nat.add_comm 1]

section Scans

variable (digits : ∀ c ∈ low, Radix.decimal.isDigit c = true)
  (digits' : ∀ c ∈ high, Radix.decimal.isDigit c = true) (stop : Text.EndsRun more)

include digits stop

/-- What is seen from a brace with digits behind it and no comma. -/
theorem comesNext_append (o : Nat) (noComma : more.head? ≠ some [',']) :
    comesNext ⟨o, ['\x7b'] :: (low.map ([·]) ++ more)⟩ = true ↔
      low ≠ [] ∧ more.head? = some ['\x7d'] := by
  have behind : (['\x7b'] :: (low.map ([·]) ++ more))[1 + low.length]? = more.head? := by
    simp [Nat.add_comm 1, List.getElem?_append_right, List.head?_eq_getElem?]
  simp [comesNext, skipDigits_append 1 0 digits stop, behind, noComma, List.length_pos_iff]

/-- What is read behind a brace if there are digits and no comma. -/
theorem read_append (o : Nat) (noComma : more.head? ≠ some [',']) :
    read ⟨o, ['\x7b'] :: (low.map ([·]) ++ more)⟩ =
      (⟨low, false, []⟩,
        (⟨o + '\x7b'.utf8Size + Text.byteLength low, more⟩ : Input).skip 1) := by
  have none (o : Nat) : (⟨o, more⟩ : Input).accept? ',' = none := if_neg noComma
  have noDigits (o : Nat) : (⟨o, more⟩ : Input).spanDigits .decimal = ([], ⟨o, more⟩) :=
    @Input.spanDigits_append o [] more nofun stop
  simp only [read, Input.skip_one, Input.spanDigits_append digits stop, none, noDigits]

include digits'

/-- What is seen from a brace with digits behind it and more of them behind a comma. -/
theorem comesNext_append_comma (o : Nat) :
    comesNext ⟨o, ['\x7b'] :: (low.map ([·]) ++ [','] :: (high.map ([·]) ++ more))⟩ = true ↔
      low ++ high ≠ [] ∧ more.head? = some ['\x7d'] := by
  generalize parted : [','] :: (high.map ([·]) ++ more) = rest
  have comma : Text.EndsRun rest := parted ▸ Text.endsRun_cons (by decide) _
  -- where looking ahead stands after the first digits, and after the second ones
  have atComma : (['\x7b'] :: (low.map ([·]) ++ rest))[1 + low.length]? = some [','] := by
    simp [← parted, Nat.add_comm 1]
  have behindComma : (low.map ([·]) ++ rest).drop (1 + low.length) = high.map ([·]) ++ more := by
    simp [← parted, Nat.add_comm 1, List.drop_append]
  have behind : (['\x7b'] :: (low.map ([·]) ++ rest))[1 + low.length + 1 + high.length]? =
      more.head? := by
    rw [Nat.add_right_comm, List.getElem?_cons_succ, ← List.head?_drop, ← List.drop_drop,
      behindComma]
    simp [List.head?_eq_getElem?]
  rw [← List.length_pos_iff, List.length_append]
  simp [comesNext, skipDigits_append 1 0 digits comma, atComma, behindComma, behind,
    skipDigits_append _ _ digits' stop]

/-- What is read behind a brace if there are digits and more of them behind a comma. -/
theorem read_append_comma (o : Nat) :
    read ⟨o, ['\x7b'] :: (low.map ([·]) ++ [','] :: (high.map ([·]) ++ more))⟩ =
      (⟨low, true, high⟩, (⟨o + '\x7b'.utf8Size + Text.byteLength low + ','.utf8Size +
        Text.byteLength high, more⟩ : Input).skip 1) := by
  have comma : Text.EndsRun ([','] :: (high.map ([·]) ++ more)) :=
    Text.endsRun_cons (by decide) _
  simp only [read, Input.skip_one, Input.spanDigits_append digits comma, Input.accept?_cons,
    Input.spanDigits_append digits' stop]

end Scans

/-- Looking ahead and reading agree on all units: a bound comes next just if what is read is a bound
as it is written, from brace to brace, and not without a digit. -/
theorem comesNext_iff_read (i : Input) : comesNext i = true ↔
    (read i).1.low ++ (read i).1.high ≠ [] ∧
      i.rest = (read i).1.spelling.map ([·]) ++ (read i).2.rest := by
  have closes (more : List Text) :
      more.head? = some ['\x7d'] ↔ more = ['\x7d'] :: more.drop 1 := by
    cases more <;> simp
  obtain ⟨o, rest⟩ := i
  by_cases brace : rest.head? = some ['\x7b']
  · obtain ⟨units, rfl⟩ := List.head?_eq_some_iff.1 brace
    obtain ⟨low, more, rfl, digits, stop, noComma | ⟨high, more, rfl, digits', stop'⟩⟩ :=
      exists_parts units
    · rw [comesNext_append digits stop o noComma, read_append digits stop o noComma, closes]
      simp [spelling, Input.skip]
    · rw [comesNext_append_comma digits digits' stop' o, read_append_comma digits digits' stop' o,
        closes]
      simp [spelling, Input.skip]
  · -- neither of them gets past another unit
    have nothing : comesNext ⟨o, rest⟩ = false := by
      rw [comesNext, ← List.head?_eq_getElem?, if_neg brace]
    rw [nothing]
    constructor
    · intro next
      cases next
    · intro spelled
      rw [show rest = _ from spelled.2] at brace
      exact absurd rfl brace

/-- A bound of any form comes next and is read to its end, and its numbers settle whether it has
its amount. -/
theorem read_of_braced (h : Braced text runs amount) (o : Nat) (more : List Text) :
    comesNext ⟨o, text.map ([·]) ++ more⟩ = true ∧
      ∃ bound, read ⟨o, text.map ([·]) ++ more⟩ = (bound, ⟨o + Text.byteLength text, more⟩) ∧
        bound.amount = amount.ofRuns runs := by
  have noDigits : ∀ c ∈ ([] : Text), Radix.decimal.isDigit c = true := nofun
  have close : Text.EndsRun (['\x7d'] :: more) := Text.endsRun_cons (by decide) more
  have filled {run : Text} (h : run.IsRun) : run.isEmpty = false :=
    List.isEmpty_eq_false_iff.2 h.filled
  cases h with
  -- each form has one run of digits or two, with a comma or without
  | @exactly n run =>
    have digits := Radix.isDigit_of_isRun run
    have read := read_append digits close o (by simp)
    have next := (comesNext_append digits close o (by simp)).2 ⟨run.filled, rfl⟩
    refine ⟨by simpa using next, ⟨n, false, []⟩, ?_, ?_⟩
    · simpa [Nat.add_assoc] using read
    · simp [Bound.amount, filled run, Radix.number_of_isRun run, Amount.ofRuns_cons,
        Amount.ofRuns_nil]
      split <;> rfl
  | @atLeast n run =>
    have digits := Radix.isDigit_of_isRun run
    have read := read_append_comma digits noDigits close o
    have next := (comesNext_append_comma digits noDigits close o).2 ⟨by simp [run.filled], rfl⟩
    refine ⟨by simpa using next, ⟨n, true, []⟩, ?_, ?_⟩
    · simpa [Nat.add_assoc] using read
    · simp [Bound.amount, filled run, Radix.number_of_isRun run, Amount.ofRuns_cons,
        Amount.ofRuns_nil]
      split <;> rfl
  | @atMost m run =>
    have digits := Radix.isDigit_of_isRun run
    have read := read_append_comma noDigits digits close o
    have next := (comesNext_append_comma noDigits digits close o).2 ⟨run.filled, rfl⟩
    refine ⟨by simpa using next, ⟨[], true, m⟩, ?_, ?_⟩
    · simpa [Nat.add_assoc] using read
    · simp [Bound.amount, Radix.number_of_isRun run, Amount.ofRuns_cons, Amount.ofRuns_nil]
      split <;> rfl
  | @between n m run run' =>
    have digits := Radix.isDigit_of_isRun run
    have digits' := Radix.isDigit_of_isRun run'
    have read := read_append_comma digits digits' close o
    have next := (comesNext_append_comma digits digits' close o).2 ⟨by simp [run.filled], rfl⟩
    refine ⟨by simpa using next, ⟨n, true, m⟩, ?_, ?_⟩
    · simpa [Nat.add_assoc] using read
    · simp [Bound.amount, filled run, filled run', Radix.number_of_isRun run,
        Radix.number_of_isRun run', Amount.ofRuns_cons, Amount.ofRuns_nil]
      split
      · split <;> rfl
      · rfl

/-- What comes next as a bound has one of the forms. -/
theorem exists_braced_of_comesNext (h : comesNext ⟨o, ['\x7b'] :: units⟩ = true) :
    ∃ text runs amount more, Braced text runs amount ∧
      ['\x7b'] :: units = text.map ([·]) ++ more := by
  have run {digits : Text} (filled : digits ≠ [])
      (all : ∀ c ∈ digits, Radix.decimal.isDigit c = true) : digits.IsRun :=
    ⟨filled, fun c mem => Radix.isDigit_decimal_iff.1 (all c mem)⟩
  obtain ⟨low, more, rfl, digits, stop, noComma | ⟨high, more, rfl, digits', stop'⟩⟩ :=
    exists_parts units
  · obtain ⟨filled, close⟩ := (comesNext_append digits stop o noComma).1 h
    obtain ⟨rest, rfl⟩ := List.head?_eq_some_iff.1 close
    exact ⟨_, _, _, rest, .exactly (run filled digits), by simp⟩
  · obtain ⟨filled, close⟩ := (comesNext_append_comma digits digits' stop' o).1 h
    obtain ⟨rest, rfl⟩ := List.head?_eq_some_iff.1 close
    -- the run that is missing, if any, says which form it is
    by_cases noLow : low = []
    · subst noLow
      exact ⟨_, _, _, rest, .atMost (run filled digits'), by simp⟩
    · by_cases noHigh : high = []
      · subst noHigh
        exact ⟨_, _, _, rest, .atLeast (run noLow digits), by simp⟩
      · exact ⟨_, _, _, rest, .between (run noLow digits) (run noHigh digits'), by simp⟩

/-- A brace opens a bound just if one of the forms comes next. -/
theorem comesNext_iff : comesNext ⟨o, ['\x7b'] :: units⟩ = true ↔
    ∃ text runs amount, Braced text runs amount ∧ text.map ([·]) <+: ['\x7b'] :: units := by
  constructor
  · intro next
    obtain ⟨text, runs, amount, more, form, spelled⟩ := exists_braced_of_comesNext next
    exact ⟨text, runs, amount, form, more, spelled.symm⟩
  · rintro ⟨text, runs, amount, form, more, spelled⟩
    rw [← spelled]
    exact (read_of_braced form o more).1

end Bound

/-! ## Braces between operands -/

theorem Braced.exists_eq_cons (h : Braced text runs amount) : ∃ rest, text = '\x7b' :: rest := by
  cases h <;> exact ⟨_, rfl⟩

theorem Quantifier.readAmount?_brace (o : Nat) (units : List Text) :
    readAmount? ⟨o, ['\x7b'] :: units⟩ =
      if Bound.comesNext ⟨o, ['\x7b'] :: units⟩ then
        some ((Bound.read ⟨o, ['\x7b'] :: units⟩).1.amount,
          (Bound.read ⟨o, ['\x7b'] :: units⟩).2)
      else none := by
  simp [readAmount?]

/-- A bound of any form is an amount, whether its numbers fit or not. -/
theorem Quantifier.readAmount?_of_braced (h : Braced text runs amount) (o : Nat)
    (more : List Text) :
    readAmount? ⟨o, text.map ([·]) ++ more⟩ =
      some (amount.ofRuns runs, ⟨o + Text.byteLength text, more⟩) := by
  obtain ⟨next, bound, read, amounts⟩ := Bound.read_of_braced h o more
  obtain ⟨rest, rfl⟩ := h.exists_eq_cons
  rw [List.map_cons, List.cons_append] at next read ⊢
  rw [readAmount?_brace, if_pos next, read, amounts]

namespace Reading

variable {dialect : Dialect} {limit : Nat} {r : Reading} {bound : Bound} {j : Input}

/-- A brace that opens a bound is a quantifier. -/
theorem step_brace_of_comesNext (next : Bound.comesNext ⟨o, ['\x7b'] :: units⟩ = true)
    (read : Bound.read ⟨o, ['\x7b'] :: units⟩ = (bound, j)) :
    step dialect limit r ['\x7b'] ⟨o, ['\x7b'] :: units⟩ =
      r.quantify ⟨o, ['\x7b'] :: units⟩ bound.amount j := by
  have noBlank : Input.isBlankUnit ['\x7b'] = false := by decide
  rw [step, if_neg (by decide), if_neg (by decide), noBlank, Bool.and_false, if_neg (by decide),
    Quantifier.readAmount?_brace, if_pos next, read]

/-- A brace that opens no bound is a character. -/
theorem step_brace_of_not_comesNext
    (other : Bound.comesNext ⟨o, ['\x7b'] :: units⟩ = false) :
    step dialect limit r ['\x7b'] ⟨o, ['\x7b'] :: units⟩ =
      .ok (r.operand (.atom (.char ['\x7b'])), ⟨o + '\x7b'.utf8Size, units⟩) := by
  have noBlank : Input.isBlankUnit ['\x7b'] = false := by decide
  rw [step, if_neg (by decide), if_neg (by decide), noBlank, Bool.and_false, if_neg (by decide),
    Quantifier.readAmount?_brace, other]
  simp [readOperand]
  rfl

/-- What is repeated is the operand before the bound, up to the numbers that do not fit. -/
theorem quantify_locate {branches : List Pattern} {p : Pattern} {pieces : List Piece}
    {groups : List OpenGroup} (x : Except ReadFault Amount) :
    quantify ⟨⟨branches, .node p true :: pieces⟩, groups⟩ i x j = (do
      let amount ← x.mapError (⟨·, i.offset, j.offset⟩)
      let (greed, next) := Quantifier.readGreed j
      return (⟨⟨branches, .node (.repetition amount greed p) true :: pieces⟩, groups⟩, next)) := by
  cases x <;> rfl

/-- Looking ahead from a brace, a bound is seen just if one of the forms comes next. Reading then
takes in its whole text and no unit more, and repeats the operand before it, where the first number
that does not fit is a fault of that text; without a bound no amount comes next, and the brace is a
character behind all that was read. -/
theorem braces_read_exactly (start : Nat) (units : List Text) :
    (Bound.comesNext ⟨start, ['\x7b'] :: units⟩ = true ↔
      ∃ text runs amount, Braced text runs amount ∧ text.map ([·]) <+: ['\x7b'] :: units) ∧
    (∀ text runs amount more, Braced text runs amount →
      ['\x7b'] :: units = text.map ([·]) ++ more →
      (∃ bound, Bound.read ⟨start, ['\x7b'] :: units⟩ =
          (bound, ⟨start + Text.byteLength text, more⟩) ∧
        bound.spelling = text ∧ bound.amount = amount.ofRuns runs) ∧
      Quantifier.readAmount? ⟨start, ['\x7b'] :: units⟩ =
        some (amount.ofRuns runs, ⟨start + Text.byteLength text, more⟩) ∧
      ∀ dialect limit branches p pieces groups,
        step dialect limit ⟨⟨branches, .node p true :: pieces⟩, groups⟩ ['\x7b']
            ⟨start, ['\x7b'] :: units⟩ = (do
          let amount ← (amount.ofRuns runs).mapError
            (⟨·, start, start + Text.byteLength text⟩)
          let (greed, next) := Quantifier.readGreed ⟨start + Text.byteLength text, more⟩
          return (⟨⟨branches, .node (.repetition amount greed p) true :: pieces⟩, groups⟩,
            next))) ∧
    (Bound.comesNext ⟨start, ['\x7b'] :: units⟩ = false →
      Quantifier.readAmount? ⟨start, ['\x7b'] :: units⟩ = none ∧
      ∀ dialect limit r,
        step dialect limit r ['\x7b'] ⟨start, ['\x7b'] :: units⟩ =
          .ok (r.operand (.atom (.char ['\x7b'])), ⟨start + '\x7b'.utf8Size, units⟩)) := by
  refine ⟨Bound.comesNext_iff, ?_, ?_⟩
  · intro text runs amount more form spelled
    obtain ⟨next, bound, read, amounts⟩ := Bound.read_of_braced form start more
    -- a bound that is seen is read as it is spelled
    have whole := ((Bound.comesNext_iff_read _).1 next).2
    rw [read, List.append_left_inj] at whole
    have spells := congrArg List.flatten whole.symm
    rw [Input.flatten_map_singleton, Input.flatten_map_singleton] at spells
    rw [← spelled] at next read
    refine ⟨⟨bound, read, spells, amounts⟩, ?_, ?_⟩
    · rw [spelled]
      exact Quantifier.readAmount?_of_braced form start more
    · intro dialect limit branches p pieces groups
      rw [step_brace_of_comesNext next read, ← amounts]
      exact quantify_locate bound.amount
  · intro other
    constructor
    · rw [Quantifier.readAmount?_brace, other, if_neg Bool.false_ne_true]
    · intro dialect limit r
      exact step_brace_of_not_comesNext other

/-- Zeros in front do not count, a number that does not fit is a fault from brace to brace, and a
comma alone is no bound. -/
theorem step_of_braces :
    step .traditional 0 ⟨⟨[], [.node (.atom .any) true]⟩, []⟩ ['\x7b']
        ⟨1, "\x7b007,4294967295\x7d?".toList.map ([·])⟩ =
      .ok (⟨⟨[], [.node (.repetition (.between 7 4294967295) .reluctant (.atom .any)) true]⟩, []⟩,
        ⟨18, []⟩) ∧
    step .traditional 0 ⟨⟨[], [.node (.atom .any) true]⟩, []⟩ ['\x7b']
        ⟨1, "\x7b4294967296,\x7d".toList.map ([·])⟩ =
      .error ⟨.numberOverflow "4294967296".toList, 1, 14⟩ ∧
    step .traditional 0 ⟨⟨[], [.node (.atom .any) true]⟩, []⟩ ['\x7b']
        ⟨1, "\x7b,\x7d".toList.map ([·])⟩ =
      .ok (⟨⟨[], [.node (.atom (.char ['\x7b'])) true, .node (.atom .any) true]⟩, []⟩,
        ⟨2, ",\x7d".toList.map ([·])⟩) := by
  have zeros : Text.IsRun "007".toList := by decide
  have largest : Text.IsRun "4294967295".toList := by decide
  have overflow : Text.IsRun "4294967296".toList := by decide
  refine ⟨?_, ?_, ?_⟩
  · have read := (braces_read_exactly 1 _).2.1 _ _ _ [['?']] (.between zeros largest) rfl
    exact read.2.2 _ _ _ _ _ _
  · have read := (braces_read_exactly 1 _).2.1 _ _ _ [] (.atLeast overflow) rfl
    exact read.2.2 _ _ _ _ _ _
  · exact ((braces_read_exactly 1 _).2.2 rfl).2 _ _ _

end Reading

end GraphemeRegex
