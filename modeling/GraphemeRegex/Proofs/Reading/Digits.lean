import GraphemeRegex.Proofs.Reading.Printable
import GraphemeRegex.Reading.Numeral

/-! # Digits — reading back the digits of a number

* `exists_digit_of_mem_toDigits`: which digits a number is written with.
* `Radix.value_toDigits`: the digits of a number denote it.
* `Text.IsRun`, `Radix.number_of_isRun`: runs of digits, and the numbers that they denote.
* `Radix.exists_run`, `Input.spanDigits_append`: the digits that come next.
-/

namespace GraphemeRegex

/-- The digits of a number are characters of digits below the base. -/
theorem exists_digit_of_mem_toDigits {base n : Nat} {c : Char} (several : 1 < base)
    (mem : c ∈ Nat.toDigits base n) : ∃ d < base, c = Nat.digitChar d := by
  induction n using Nat.strongRecOn with
  | ind n ih =>
    by_cases small : n < base
    · rw [Nat.toDigits_of_lt_base small, List.mem_singleton] at mem
      exact ⟨n, small, mem⟩
    · have large : base ≤ n := Nat.not_lt.1 small
      rw [Nat.toDigits_of_base_le several large] at mem
      rcases List.mem_append.1 mem with front | last
      · have less : n / base < n := Nat.div_lt_self (by omega) several
        exact ih (n / base) less front
      · exact ⟨n % base, Nat.mod_lt n (by omega), List.mem_singleton.1 last⟩

namespace Radix

variable {radix : Radix} {write : Char → Char}

/-- The digits of a number denote it, in whichever way single digits are written. -/
theorem value_toDigits (digit : ∀ d < radix.base, radix.digit? (write (Nat.digitChar d)) = some d)
    (n : Nat) : radix.value ((Nat.toDigits radix.base n).map write) = n := by
  have several : 1 < radix.base := by cases radix <;> decide
  induction n using Nat.strongRecOn with
  | ind n ih =>
    -- by the last digit and those in front of it
    by_cases small : n < radix.base
    · rw [Nat.toDigits_of_lt_base small, value, List.map_cons, List.map_nil, List.foldl_cons,
        List.foldl_nil, digit n small, Nat.zero_mul, Nat.zero_add, Option.getD_some]
    · have large : radix.base ≤ n := Nat.not_lt.1 small
      have less : n / radix.base < n := Nat.div_lt_self (by omega) several
      have last : radix.digit? (write (Nat.digitChar (n % radix.base))) = some (n % radix.base) :=
        digit _ (Nat.mod_lt n (by omega))
      have front := ih (n / radix.base) less
      rw [value] at front
      rw [Nat.toDigits_of_base_le several large, value, List.map_append, List.foldl_append, front,
        List.map_cons, List.map_nil, List.foldl_cons, List.foldl_nil, last, Option.getD_some]
      exact Nat.div_add_mod' n radix.base

/-- Different numbers have different digits. -/
theorem eq_of_toDigits_eq (radix : Radix) {m n : Nat}
    (same : Nat.toDigits radix.base m = Nat.toDigits radix.base n) : m = n := by
  have digit : ∀ d < radix.base, radix.digit? (id (Nat.digitChar d)) = some d := by
    cases radix <;> decide
  rw [← value_toDigits digit m, same, value_toDigits digit n]

/-! ## Decimal digits -/

/-- Numbers are written with decimal digits. -/
theorem isDigit_of_mem_toDigits {n : Nat} {c : Char} (mem : c ∈ Nat.toDigits 10 n) :
    decimal.isDigit c = true := by
  obtain ⟨d, small, rfl⟩ := exists_digit_of_mem_toDigits (by decide) mem
  have digits : ∀ d < 10, decimal.isDigit (Nat.digitChar d) = true := by decide
  exact digits d small

/-- Decimal digits are written as they are. -/
theorem value_toDigits_decimal (n : Nat) : decimal.value (Nat.toDigits 10 n) = n := by
  have digit : ∀ d < decimal.base, decimal.digit? (id (Nat.digitChar d)) = some d := by decide
  have value := value_toDigits digit n
  rwa [List.map_id] at value

/-! ## Hexadecimal digits -/

/-- The hexadecimal digits of a number, with capital letters. -/
def hexDigits (n : Nat) : Text :=
  (Nat.toDigits 16 n).map Char.toUpper

/-- Whether the hexadecimal digits of a number pass a test is found by trying all digits. -/
theorem of_mem_hexDigits (test : Char → Bool) {n : Nat} {c : Char} (mem : c ∈ hexDigits n)
    (all : ∀ d < 16, test (Char.toUpper (Nat.digitChar d)) = true) : test c = true := by
  obtain ⟨digit, inside, rfl⟩ := List.mem_map.1 mem
  have several : 1 < 16 := by decide
  obtain ⟨d, small, rfl⟩ := exists_digit_of_mem_toDigits several inside
  exact all d small

theorem hexDigits_ne_nil (n : Nat) : hexDigits n ≠ [] := by
  intro none
  exact Nat.toDigits_ne_nil (List.map_eq_nil_iff.1 none)

/-- Hexadecimal digits in capitals denote the number. -/
theorem value_hexDigits (n : Nat) : hex.value (hexDigits n) = n := by
  have digit : ∀ d < hex.base, hex.digit? (Char.toUpper (Nat.digitChar d)) = some d := by decide
  exact value_toDigits digit n

end Radix

/-! ## Runs -/

/-- One decimal digit or more. -/
structure Text.IsRun (run : Text) : Prop where
  filled : run ≠ []
  digits : ∀ c ∈ run, '0' ≤ c ∧ c ≤ '9'

/-- The units do not go on with a decimal digit. -/
def Text.EndsRun (units : List Text) : Prop :=
  ∀ c, units.head? = some [c] → ¬ ('0' ≤ c ∧ c ≤ '9')

/-- A run does not begin with anything but a digit. -/
theorem Text.IsRun.ne_of_cons {c d : Char} {rest : Text} (h : Text.IsRun (c :: rest))
    (other : ¬ ('0' ≤ d ∧ d ≤ '9')) : c ≠ d := by
  rintro rfl
  exact other (h.digits c List.mem_cons_self)

/-- A run ends in front of what is no digit. -/
theorem Text.endsRun_cons {d : Char} (other : ¬ ('0' ≤ d ∧ d ≤ '9')) (more : List Text) :
    Text.EndsRun ([d] :: more) := by
  rintro c ⟨⟩
  exact other

namespace Radix

/-- The decimal digits are those of ASCII. -/
theorem isDigit_decimal_iff {c : Char} : decimal.isDigit c = true ↔ '0' ≤ c ∧ c ≤ '9' := by
  have base : decimal.base = 10 := rfl
  rw [isDigit, digit?, base]
  by_cases digit : '0' ≤ c ∧ c ≤ '9'
  · have high : c.toNat ≤ 57 := digit.2
    have small : c.toNat - 48 < 10 := by omega
    simp [digit, small]
  · -- letters have values from ten on
    rw [if_neg digit]
    split
    · simp [digit]
    · split <;> simp [digit]

theorem isDigit_of_isRun {run : Text} (h : run.IsRun) : ∀ c ∈ run, decimal.isDigit c = true :=
  fun c mem => isDigit_decimal_iff.2 (h.digits c mem)

/-- Behind a run comes no unit that is a digit. -/
theorem isDigitUnit_of_endsRun {units : List Text} (h : Text.EndsRun units) {unit : Text}
    (head : units.head? = some unit) : decimal.isDigitUnit unit = false := by
  unfold isDigitUnit
  split
  case h_1 c =>
    rw [← Bool.not_eq_true, isDigit_decimal_iff]
    exact h c head
  case h_2 => rfl

/-- Whatever the units are, a run of digits stands in front of them, which may be empty. -/
theorem exists_run (units : List Text) :
    ∃ (run : Text) (more : List Text), units = run.map ([·]) ++ more ∧
      (∀ c ∈ run, decimal.isDigit c = true) ∧ Text.EndsRun more := by
  induction units with
  | nil => exact ⟨[], [], rfl, nofun, nofun⟩
  | cons unit units ih =>
    by_cases digit : ∃ c, unit = [c] ∧ decimal.isDigit c = true
    · obtain ⟨c, rfl, here⟩ := digit
      obtain ⟨run, more, rfl, digits, stop⟩ := ih
      exact ⟨c :: run, more, rfl, List.forall_mem_cons.2 ⟨here, digits⟩, stop⟩
    · -- the run is empty, and ends where the units begin
      refine ⟨[], unit :: units, rfl, nofun, ?_⟩
      intro c head inside
      exact digit ⟨c, Option.some.inj head, isDigit_decimal_iff.2 inside⟩

/-- The digits of a number are a run. -/
theorem isRun_toDigits (n : Nat) : Text.IsRun (Nat.toDigits 10 n) :=
  ⟨Nat.toDigits_ne_nil, fun _ mem => isDigit_decimal_iff.1 (isDigit_of_mem_toDigits mem)⟩

instance (run : Text) : Decidable run.IsRun :=
  decidable_of_iff ((!run.isEmpty && run.all decimal.isDigit) = true) <| by
    rw [Bool.and_eq_true, Bool.not_eq_true', List.isEmpty_eq_false_iff, List.all_eq_true]
    constructor
    · rintro ⟨filled, digits⟩
      exact ⟨filled, fun c mem => isDigit_decimal_iff.1 (digits c mem)⟩
    · intro h
      exact ⟨h.filled, isDigit_of_isRun h⟩

/-- A run that fits denotes its value, and one that does not is the fault. -/
theorem number_of_isRun {run : Text} (h : run.IsRun) :
    decimal.number run =
      if decimal.value run < 0x100000000 then .ok (decimal.value run)
      else .error (.numberOverflow run) := by
  rw [number, List.isEmpty_eq_false_iff.2 h.filled]
  rfl

end Radix

/-! ## Spans -/

namespace Input

variable {o : Nat}

/-- Digits are read up to what is no digit. -/
theorem spanDigits_append {digits : Text} {more : List Text}
    (all : ∀ c ∈ digits, Radix.decimal.isDigit c = true) (stop : Text.EndsRun more) :
    (⟨o, digits.map ([·]) ++ more⟩ : Input).spanDigits .decimal =
      (digits, ⟨o + Text.byteLength digits, more⟩) := by
  have pass : ∀ unit ∈ digits.map ([·]), Radix.decimal.isDigitUnit unit = true := by
    intro unit mem
    obtain ⟨c, inside, rfl⟩ := List.mem_map.1 mem
    exact all c inside
  have span := spanWhile_append (o := o) _ pass fun _ head => Radix.isDigitUnit_of_endsRun stop head
  rwa [flatten_map_singleton] at span

end Input

end GraphemeRegex
