import GraphemeRegex.Reading.Input

/-! # Printable texts — inputs whose units are single scalars

In a text of printable ASCII every cluster is one scalar, so what reads it never meets a longer
unit.

* `Text.Printable`: only printable ASCII.
* `Text.Printable.clusters`: the clusters of such a text are its scalars.
* `Input.skip_append`, `Input.spanWhile_append`: how far skipping and spans reach in any input.
* `Input.plain`: an input whose units are the scalars of a text.
* `Input.spanWhile_plain`: how far a span reaches in such an input.
-/

namespace GraphemeRegex

/-! ## Scalars of ASCII -/

/-- Whether a scalar is a letter, a digit or an underscore of ASCII. -/
def isAsciiName (c : Char) : Bool :=
  c.isAlphanum || c == '_'

/-- There are few such scalars, so that what they have in common can be looked up. -/
theorem toNat_lt_of_isAsciiName {c : Char} (h : isAsciiName c = true) : c.toNat < 128 := by
  have value : c.toNat = c.val.toNat := rfl
  rcases Bool.or_eq_true_iff.1 h with letter | underscore
  · -- capitals, small letters and digits all end below 128
    have ranges : ((decide ('A'.val ≤ c.val ∧ c.val ≤ 'Z'.val) ||
        decide ('a'.val ≤ c.val) && decide (c.val ≤ 'z'.val)) ||
        decide ('0'.val ≤ c.val) && decide (c.val ≤ '9'.val)) = true := letter
    simp only [Bool.or_eq_true, Bool.and_eq_true, decide_eq_true_eq,
      UInt32.le_iff_toNat_le] at ranges
    rcases ranges with (⟨_, high⟩ | ⟨_, high⟩) | ⟨_, high⟩ <;>
      · simp at high
        omega
  · rw [beq_iff_eq] at underscore
    subst underscore
    decide

/-- Whether all letters, digits and underscores of ASCII pass a test is found by trying them. -/
theorem of_isAsciiName (test : Char → Bool) {c : Char} (h : isAsciiName c = true)
    (all : ∀ n < 128, isAsciiName (Char.ofNat n) = true → test (Char.ofNat n) = true) :
    test c = true := by
  have here := all c.toNat (toNat_lt_of_isAsciiName h)
  rw [Char.ofNat_toNat] at here
  exact here h

/-! ## Texts -/

namespace Text

/-- Whether a scalar is a printable one of ASCII. -/
def isPrintable (c : Char) : Bool :=
  decide (0x20 ≤ c.toNat) && decide (c.toNat ≤ 0x7e)

/-- All scalars of the text are printable ones of ASCII. -/
def Printable (text : Text) : Prop :=
  ∀ c ∈ text, isPrintable c = true

instance (text : Text) : Decidable text.Printable :=
  decidable_of_iff (text.all isPrintable = true) List.all_eq_true

/-- A printable scalar of ASCII does not join others. -/
theorem ofChar_of_isPrintable {c : Char} (h : isPrintable c = true) :
    ClusterClass.ofChar c = .other := by
  rw [isPrintable, Bool.and_eq_true, decide_eq_true_iff, decide_eq_true_iff] at h
  have noReturn : c ≠ '\r' := by
    rintro rfl
    exact absurd h.1 (by decide)
  have noFeed : c ≠ '\n' := by
    rintro rfl
    exact absurd h.1 (by decide)
  rw [ClusterClass.ofChar, if_neg noReturn, if_neg noFeed, if_neg (by omega), if_pos (by omega)]

/-- Names are printable. -/
theorem isPrintable_of_isAsciiName {c : Char} (h : isAsciiName c = true) : isPrintable c = true :=
  of_isAsciiName isPrintable h (by decide +kernel)

theorem Printable.nil : Printable [] := fun _ mem => absurd mem List.not_mem_nil

theorem Printable.tail {c : Char} {text : Text} (h : Printable (c :: text)) : Printable text :=
  fun d mem => h d (List.mem_cons_of_mem c mem)

/-- Printable texts one behind the other. -/
theorem Printable.append {first second : Text} (h : first.Printable) (h' : second.Printable) :
    Printable (first ++ second) := by
  intro c mem
  rcases List.mem_append.1 mem with mem | mem
  · exact h c mem
  · exact h' c mem

/-- Behind a printable scalar, each printable scalar begins a cluster. -/
theorem Printable.splitClusters {text : Text} (h : text.Printable) :
    splitClusters .plain text = ([], text.map ([·])) := by
  induction text with
  | nil => rfl
  | cons c rest ih =>
    have other := ofChar_of_isPrintable (h c List.mem_cons_self)
    -- the next scalar neither joins the one before nor changes how clusters end
    have apart : ClusterEnd.joins .plain (.ofChar c) = false := by
      rw [other]
      rfl
    have begins : ClusterEnd.start (.ofChar c) = .plain := by
      rw [other]
      rfl
    rw [Text.splitClusters, apart, begins, ih h.tail]
    rfl

/-- The clusters of a printable text are its scalars. -/
theorem Printable.clusters {text : Text} (h : text.Printable) :
    text.clusters = text.map ([·]) := by
  cases text with
  | nil => rfl
  | cons c rest =>
    have other := ofChar_of_isPrintable (h c List.mem_cons_self)
    have begins : ClusterEnd.start (.ofChar c) = .plain := by
      rw [other]
      rfl
    rw [Text.clusters, begins, h.tail.splitClusters]
    rfl

end Text

/-! ## Inputs -/

/-- Each such scalar is a unit of a name. -/
theorem Input.isNameUnit_of_isAsciiName {c : Char} (h : isAsciiName c = true) :
    isNameUnit [c] = true :=
  of_isAsciiName (isNameUnit [·]) h (by decide +kernel)

namespace Input

variable {o : Nat} {c : Char}

section Units

variable {taken more : List Text}

/-- Skipping what stands in front leads behind its text. -/
theorem skip_append (o : Nat) (taken more : List Text) :
    (⟨o, taken ++ more⟩ : Input).skip taken.length = ⟨o + Text.byteLength taken.flatten, more⟩ := by
  rw [skip, List.take_left, List.drop_left]

@[simp] theorem skip_one (o : Nat) (c : Char) (more : List Text) :
    (⟨o, [c] :: more⟩ : Input).skip 1 = ⟨o + c.utf8Size, more⟩ :=
  skip_append o [[c]] more

@[simp] theorem accept?_cons (o : Nat) (c : Char) (more : List Text) :
    (⟨o, [c] :: more⟩ : Input).accept? c = some ⟨o + c.utf8Size, more⟩ := by
  rw [accept?, List.head?_cons, if_pos rfl, skip_one]

/-- A scalar is not accepted where something else comes next. -/
theorem accept?_of_ne (h : more.head? ≠ some [c]) : (⟨o, more⟩ : Input).accept? c = none := by
  rw [accept?, if_neg h]

@[simp] theorem expect_cons (o : Nat) (c : Char) (more : List Text) :
    (⟨o, [c] :: more⟩ : Input).expect c = .ok ⟨o + c.utf8Size, more⟩ := by
  rw [expect, accept?_cons]

/-- What passes a test is taken, up to the first that does not. -/
theorem takeWhile_append_of_stop {α : Type} {test : α → Bool} {taken more : List α}
    (pass : ∀ a ∈ taken, test a = true) (stop : ∀ a, more.head? = some a → test a = false) :
    (taken ++ more).takeWhile test = taken := by
  rw [List.takeWhile_append_of_pos pass]
  cases more with
  | nil => simp
  | cons a more => simp [stop a rfl]

/-- A span takes the units that pass the test, up to the first that does not. -/
theorem spanWhile_append (test : Text → Bool) (pass : ∀ unit ∈ taken, test unit = true)
    (stop : ∀ unit, more.head? = some unit → test unit = false) :
    (⟨o, taken ++ more⟩ : Input).spanWhile test =
      (taken.flatten, ⟨o + Text.byteLength taken.flatten, more⟩) := by
  rw [spanWhile, takeWhile_append_of_stop pass stop, skip_append]

end Units

/-- The input at an offset whose units are the scalars of a text. -/
def plain (offset : Nat) (text : Text) : Input :=
  ⟨offset, text.map ([·])⟩

variable {text taken more : Text}

/-- A printable source is read scalar by scalar. -/
theorem ofText_eq_plain (h : text.Printable) : ofText text = plain 0 text := by
  rw [ofText, h.clusters, plain]

@[simp] theorem rest_plain_cons : (plain o (c :: text)).rest = [c] :: text.map ([·]) := rfl

@[simp] theorem flatten_map_singleton (text : Text) : (text.map ([·])).flatten = text := by
  rw [← List.flatMap_def]
  exact List.flatMap_singleton' text

/-- Skipping as many units as a text has scalars leads behind it. -/
theorem skip_plain_append (taken : Text) :
    (plain o (taken ++ more)).skip taken.length = plain (o + Text.byteLength taken) more := by
  have skipped := skip_append o (taken.map ([·])) (more.map ([·]))
  rwa [List.length_map, flatten_map_singleton, ← List.map_append] at skipped

@[simp] theorem skip_plain_one : (plain o (c :: text)).skip 1 = plain (o + c.utf8Size) text :=
  skip_plain_append [c]

@[simp] theorem accept?_plain_cons :
    (plain o (c :: text)).accept? c = some (plain (o + c.utf8Size) text) :=
  accept?_cons o c _

/-- The same where all units are single scalars. -/
theorem accept?_plain_of_ne (h : ∀ d, text.head? = some d → d ≠ c) :
    (plain o text).accept? c = none := by
  apply accept?_of_ne
  cases text with
  | nil => exact nofun
  | cons d rest => simpa using h d rfl

@[simp] theorem expect_plain_cons :
    (plain o (c :: text)).expect c = .ok (plain (o + c.utf8Size) text) :=
  expect_cons o c _

/-- A span takes what passes the test, up to the first scalar that does not. -/
theorem spanWhile_plain (test : Text → Bool) (pass : ∀ c ∈ taken, test [c] = true)
    (stop : ∀ c, more.head? = some c → test [c] = false) :
    (plain o (taken ++ more)).spanWhile test = (taken, plain (o + Text.byteLength taken) more) := by
  have all : ∀ unit ∈ taken.map ([·]), test unit = true := by
    intro unit mem
    obtain ⟨c, inside, rfl⟩ := List.mem_map.1 mem
    exact pass c inside
  -- what is behind is not taken, since its first scalar does not pass
  have next : ∀ unit, (more.map ([·])).head? = some unit → test unit = false := by
    intro unit head
    rw [List.head?_map] at head
    obtain ⟨c, first, rfl⟩ := Option.map_eq_some_iff.1 head
    exact stop c first
  have span := spanWhile_append (o := o) test all next
  rwa [flatten_map_singleton, ← List.map_append] at span

/-- A name reaches up to the first unit that is none of its own. -/
theorem readName_plain (o start : Nat) (some : taken ≠ [])
    (letters : ∀ c ∈ taken, isAsciiName c = true)
    (stop : ∀ c, more.head? = .some c → isNameUnit [c] = false) :
    (plain o (taken ++ more)).readName start =
      .ok (taken, plain (o + Text.byteLength taken) more) := by
  have pass : ∀ c ∈ taken, isNameUnit [c] = true :=
    fun c mem => isNameUnit_of_isAsciiName (letters c mem)
  have span := spanWhile_plain (o := o) isNameUnit pass stop
  obtain ⟨c, rest, rfl⟩ := List.exists_cons_of_ne_nil some
  rw [readName, span]

end Input

end GraphemeRegex
