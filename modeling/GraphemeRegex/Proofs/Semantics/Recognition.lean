import GraphemeRegex.Proofs.Semantics.Matcher
import Mathlib.Computability.Language

/-! # Recognition — matchers and the languages they recognize

A matcher recognizes a language if its matches are the words of the language. Which matches there
are does not depend on the order in which they are tried, as long as none are cut off.

* `Matcher.Recognizes`: the matches are the words of a language.
* `Matcher.recognizes_append`: matches one behind the other.
* `Matcher.recognizes_repeated`: loops. That a loop without a limit stops behind an empty pass
  loses no words, because empty passes may as well come first.
-/

namespace GraphemeRegex

/-- Powers of a language, as many as an amount allows. -/
def Amount.powers (amount : Amount) (L : Language Char) : Language Char :=
  {w | ∃ k, amount.low ≤ k ∧ (∀ high ∈ amount.high?, k ≤ high) ∧ w ∈ L ^ k}

theorem Amount.mem_powers {amount : Amount} {L : Language Char} {w : Text} :
    w ∈ amount.powers L ↔ ∃ k, amount.low ≤ k ∧ (∀ high ∈ amount.high?, k ≤ high) ∧ w ∈ L ^ k :=
  Iff.rfl

namespace Matcher

/-- The matches are the words of a language. -/
def Recognizes (M : Matcher) (L : Language Char) : Prop :=
  ∀ p q, q ∈ M p ↔ ∃ w ∈ L, p.after? w = some q

variable {M N : Matcher} {L L' : Language Char}

/-- One more word in front. -/
theorem append_mem_pow_succ {a b : Text} {k : Nat} (memA : a ∈ L) (memB : b ∈ L ^ k) :
    a ++ b ∈ L ^ (k + 1) := by
  rw [pow_succ']
  exact Language.append_mem_mul memA memB

/-- Words in a row are as many as they are together. -/
theorem append_mem_pow_add {a b : Text} {j k : Nat} (memA : a ∈ L ^ j) (memB : b ∈ L ^ k) :
    a ++ b ∈ L ^ (j + k) := by
  rw [pow_add]
  exact Language.append_mem_mul memA memB

/-! ## Straight matchers -/

/-- Matching nothing recognizes the empty word. -/
theorem recognizes_nothing : nothing.Recognizes 1 := by
  intro p q
  constructor
  · intro mem
    rw [List.mem_singleton.1 mem]
    exact ⟨[], Language.nil_mem_one, Position.after?_nil p⟩
  · rintro ⟨w, mem, found⟩
    obtain rfl : w = [] := mem
    rw [Position.after?_nil, Option.some.injEq] at found
    exact List.mem_singleton.2 found.symm

/-- Never matching recognizes no word. -/
theorem recognizes_never : never.Recognizes 0 := by
  intro p q
  constructor
  · intro mem
    exact absurd mem List.not_mem_nil
  · rintro ⟨w, mem, _⟩
    exact absurd mem (Language.notMem_zero w)

/-- A constant text recognizes itself. -/
theorem recognizes_text (text : Text) :
    (unit fun p => (p.after? text).map (text, ·)).Recognizes {text} := by
  intro p q
  rw [mem_unit]
  constructor
  · rintro ⟨taken, h⟩
    rcases Option.map_eq_some_iff.1 h with ⟨q', found, pair⟩
    cases pair
    exact ⟨text, rfl, found⟩
  · rintro ⟨w, mem, found⟩
    obtain rfl : w = text := mem
    exact ⟨w, by rw [found]; rfl⟩

/-- Matches in a row are products of words. -/
theorem recognizes_append (hM : M.Recognizes L) (hN : N.Recognizes L') :
    (M.append N).Recognizes (L * L') := by
  intro p r
  rw [append, List.mem_flatMap]
  constructor
  · rintro ⟨q, first, second⟩
    rcases (hM p q).1 first with ⟨a, memA, foundA⟩
    rcases (hN q r).1 second with ⟨b, memB, foundB⟩
    exact ⟨a ++ b, Language.append_mem_mul memA memB, Position.after?_trans foundA foundB⟩
  · rintro ⟨w, mem, found⟩
    rcases Language.mem_mul.1 mem with ⟨a, memA, b, memB, rfl⟩
    rcases Position.after?_append.1 found with ⟨q, foundA, foundB⟩
    exact ⟨q, (hM p q).2 ⟨a, memA, foundA⟩, (hN q r).2 ⟨b, memB, foundB⟩⟩

/-- The matches of one matcher, then those of another. -/
theorem recognizes_or (hM : M.Recognizes L) (hN : N.Recognizes L') :
    Recognizes (fun p => M p ++ N p) (L + L') := by
  intro p q
  rw [List.mem_append, hM p q, hN p q]
  constructor
  · rintro (⟨w, mem, found⟩ | ⟨w, mem, found⟩)
    · exact ⟨w, .inl mem, found⟩
    · exact ⟨w, .inr mem, found⟩
  · rintro ⟨w, mem | mem, found⟩
    · exact .inl ⟨w, mem, found⟩
    · exact .inr ⟨w, mem, found⟩

/-! ## Loops -/

section Loops

variable {greed : Greed} {pass : Matcher} {after : Option Position → Matcher} {p q r : Position}
  {last? : Option Position} {count : Nat}

/-- A loop that is not possessive keeps all ends of a pass. -/
theorem commit_of_free (free : greed ≠ .possessive) (M : Matcher) :
    (fun p => greed.commit (M p)) = M := by
  cases greed with
  | eager | reluctant => rfl
  | possessive => exact absurd rfl free

/-- Whatever is tried first, both are tried. -/
theorem mem_prefer (free : greed ≠ .possessive) {more : List Position} :
    q ∈ greed.prefer more [p] ↔ q ∈ more ∨ q = p := by
  cases greed with
  | eager => simp [Greed.prefer]
  | reluctant => simp [Greed.prefer, or_comm]
  | possessive => exact absurd rfl free

theorem recognizes_upTo (free : greed ≠ .possessive) (h : pass.Recognizes L) (count : Nat) :
    (upTo greed pass count).Recognizes {w | ∃ k ≤ count, w ∈ L ^ k} := by
  induction count with
  | zero =>
    intro p q
    constructor
    · intro mem
      rw [List.mem_singleton.1 mem]
      exact ⟨[], ⟨0, Nat.le_refl 0, rfl⟩, Position.after?_nil p⟩
    · rintro ⟨w, ⟨k, small, mem⟩, found⟩
      obtain rfl := Nat.le_zero.1 small
      exact (recognizes_nothing p q).2 ⟨w, mem, found⟩
  | succ count ih =>
    intro p q
    rw [upTo, mem_prefer free, ← append, recognizes_append h ih p q]
    constructor
    · -- one more pass, or none
      rintro (⟨w, mem, found⟩ | rfl)
      · rcases Language.mem_mul.1 mem with ⟨a, memA, b, ⟨k, small, memB⟩, rfl⟩
        have word : a ++ b ∈ L ^ (k + 1) := append_mem_pow_succ memA memB
        exact ⟨a ++ b, ⟨k + 1, Nat.succ_le_succ small, word⟩, found⟩
      · exact ⟨[], ⟨0, Nat.zero_le _, rfl⟩, Position.after?_nil q⟩
    · rintro ⟨w, ⟨k, small, mem⟩, found⟩
      cases k with
      | zero =>
        obtain rfl : w = [] := mem
        rw [Position.after?_nil, Option.some.injEq] at found
        exact .inr found.symm
      | succ k =>
        rw [pow_succ'] at mem
        rcases Language.mem_mul.1 mem with ⟨a, memA, b, memB, rfl⟩
        refine .inl ⟨a ++ b, ?_, found⟩
        exact Language.append_mem_mul memA ⟨k, Nat.le_of_succ_le_succ small, memB⟩

/-- A loop can always stop. -/
theorem mem_unlimited_self (free : greed ≠ .possessive) (last? : Option Position) (p : Position) :
    p ∈ unlimited greed pass last? p := by
  rw [unlimited]
  split
  · exact List.mem_singleton.2 rfl
  · exact (mem_prefer free).2 (.inr rfl)

/-- Each end of a loop without a limit is reached by some number of words. -/
theorem exists_of_mem_unlimited (free : greed ≠ .possessive) (h : pass.Recognizes L)
    (mem : q ∈ unlimited greed pass last? p) : ∃ k, ∃ w ∈ L ^ k, p.after? w = some q := by
  induction last?, p using unlimited.induct with
  | case1 last? p stuck =>
    -- a loop that has not moved stops
    rw [unlimited, if_pos stuck] at mem
    rw [List.mem_singleton.1 mem]
    exact ⟨0, [], rfl, Position.after?_nil p⟩
  | case2 last? p moved ih =>
    rw [unlimited, if_neg moved, mem_prefer free] at mem
    rcases mem with mem | rfl
    · rcases List.mem_flatMap.1 mem with ⟨r, first, second⟩
      rcases (h p r).1 first with ⟨a, memA, foundA⟩
      rcases ih r second with ⟨k, b, memB, foundB⟩
      have word : a ++ b ∈ L ^ (k + 1) := append_mem_pow_succ memA memB
      exact ⟨k + 1, a ++ b, word, Position.after?_trans foundA foundB⟩
    · exact ⟨0, [], rfl, Position.after?_nil q⟩

/-- Where a word that is not empty leads to, a loop is not stuck. -/
theorem not_stuck_of_filled {w : Text} (filled : w ≠ []) (found : p.after? w = some q) :
    ¬((some p).any (·.rest.length ≤ q.rest.length) = true) := by
  rw [Option.any_some, decide_eq_true_iff, (Position.after?_eq_some_iff.1 found).1,
    List.length_append]
  have := List.length_pos_iff.2 filled
  omega

/-- A loop that is not stuck makes all passes that consume something. -/
theorem mem_unlimited_of_filled (free : greed ≠ .possessive) (h : pass.Recognizes L)
    {words : List Text} (filled : ∀ w ∈ words, w ∈ L ∧ w ≠ [])
    (moved : ¬(last?.any (·.rest.length ≤ p.rest.length) = true))
    (found : p.after? words.flatten = some q) : q ∈ unlimited greed pass last? p := by
  induction words generalizing p last? with
  | nil =>
    rw [List.flatten_nil, Position.after?_nil, Option.some.injEq] at found
    subst found
    exact mem_unlimited_self free last? p
  | cons w words ih =>
    rw [List.flatten_cons] at found
    rcases Position.after?_append.1 found with ⟨r, first, second⟩
    rcases filled w (by simp) with ⟨mem, nonempty⟩
    rw [unlimited, if_neg moved, mem_prefer free]
    -- the first word is one pass, behind which the loop has moved on
    refine .inl (List.mem_flatMap.2 ⟨r, (h p r).2 ⟨w, mem, first⟩, ?_⟩)
    refine ih ?_ (not_stuck_of_filled nonempty first) second
    intro v known
    exact filled v (by simp [known])

/-- Required passes are made in a row, and then what follows them. -/
theorem exists_of_mem_required (h : pass.Recognizes L)
    (mem : q ∈ required pass after count last? p) : ∃ w ∈ L ^ count, ∃ (r : Position)
      (last? : Option Position), p.after? w = some r ∧ q ∈ after last? r := by
  induction count generalizing p last? with
  | zero => exact ⟨[], rfl, p, last?, Position.after?_nil p, mem⟩
  | succ count ih =>
    rcases List.mem_flatMap.1 mem with ⟨r, first, second⟩
    rcases (h p r).1 first with ⟨a, memA, foundA⟩
    rcases ih second with ⟨b, memB, r', last'?, foundB, later⟩
    have word : a ++ b ∈ L ^ (count + 1) := append_mem_pow_succ memA memB
    exact ⟨a ++ b, word, r', last'?, Position.after?_trans foundA foundB, later⟩

/-- As many words as there are required passes lead through them. -/
theorem mem_required_of_pow (h : pass.Recognizes L) {w : Text} (mem : w ∈ L ^ count)
    (found : p.after? w = some r) (later : ∀ last?, q ∈ after last? r) :
    q ∈ required pass after count last? p := by
  induction count generalizing p last? w with
  | zero =>
    obtain rfl : w = [] := mem
    rw [Position.after?_nil, Option.some.injEq] at found
    subst found
    exact later last?
  | succ count ih =>
    rw [pow_succ'] at mem
    rcases Language.mem_mul.1 mem with ⟨a, memA, b, memB, rfl⟩
    rcases Position.after?_append.1 found with ⟨r', foundA, foundB⟩
    exact List.mem_flatMap.2 ⟨r', (h p r').2 ⟨a, memA, foundA⟩, ih memB foundB⟩

/-- Words that are not empty lead through the required passes and on from there. -/
theorem mem_required_of_filled (free : greed ≠ .possessive) (h : pass.Recognizes L)
    {words : List Text} (filled : ∀ w ∈ words, w ∈ L ∧ w ≠ []) (enough : count ≤ words.length)
    (moved : ¬(last?.any (·.rest.length ≤ p.rest.length) = true))
    (found : p.after? words.flatten = some q) :
    q ∈ required pass (unlimited greed pass) count last? p := by
  induction count generalizing p last? words with
  | zero => exact mem_unlimited_of_filled free h filled moved found
  | succ count ih =>
    cases words with
    | nil => exact absurd enough (Nat.not_succ_le_zero count)
    | cons w words =>
      rw [List.flatten_cons] at found
      rcases Position.after?_append.1 found with ⟨r, first, second⟩
      rcases filled w (by simp) with ⟨mem, nonempty⟩
      -- the first word leads through the first pass, the others through the rest
      refine List.mem_flatMap.2 ⟨r, (h p r).2 ⟨w, mem, first⟩, ?_⟩
      refine ih ?_ (Nat.le_of_succ_le_succ enough) (not_stuck_of_filled nonempty first) second
      intro v known
      exact filled v (by simp [known])

/-- Stopping behind the first empty pass loses no words: passes that consume something come first,
and if there are too few of them, the required passes begin with empty ones. -/
theorem mem_required_of_le (free : greed ≠ .possessive) (h : pass.Recognizes L) {k : Nat}
    {w : Text} (enough : count ≤ k) (mem : w ∈ L ^ k) (found : p.after? w = some q) :
    q ∈ required pass (unlimited greed pass) count none p := by
  rcases Language.mem_pow.1 mem with ⟨words, rfl, size, known⟩
  -- words that are empty may be left out
  let filled := words.filter fun v => !v.isEmpty
  have same : words.flatten = filled.flatten := List.flatten_filter_not_isEmpty.symm
  have filled_mem (v : Text) (inside : v ∈ filled) : v ∈ L ∧ v ≠ [] := by
    rcases List.mem_filter.1 inside with ⟨inside, nonempty⟩
    exact ⟨known v inside, by simpa using nonempty⟩
  rw [same] at found
  -- if enough words are left, every pass consumes something
  by_cases few : count ≤ filled.length
  · exact mem_required_of_filled free h filled_mem few (by simp) found
  · -- a word was left out, so the empty word may be put in front as often as passes are missing
    have blank : [] ∈ L := by
      by_contra none
      have all : filled = words := by
        refine List.filter_eq_self.2 ?_
        intro v inside
        have nonempty : v ≠ [] := by
          rintro rfl
          exact none (known [] inside)
        simpa using nonempty
      rw [all, size] at few
      exact few enough
    have padded : filled.flatten ∈ L ^ count := by
      refine Language.mem_pow.2 ⟨List.replicate (count - filled.length) [] ++ filled, ?_, ?_, ?_⟩
      · simp
      · rw [List.length_append, List.length_replicate]
        omega
      · intro v inside
        rcases List.mem_append.1 inside with inside | inside
        · rw [List.eq_of_mem_replicate inside]
          exact blank
        · exact (filled_mem v inside).1
    refine mem_required_of_pow h padded found ?_
    intro last?
    exact mem_unlimited_self free last? q

/-- A loop without a limit recognizes the powers from its number of required passes on. -/
theorem mem_required_unlimited_iff (free : greed ≠ .possessive) (h : pass.Recognizes L) :
    q ∈ required pass (unlimited greed pass) count none p ↔
      ∃ w, (∃ k, count ≤ k ∧ w ∈ L ^ k) ∧ p.after? w = some q := by
  constructor
  · intro mem
    rcases exists_of_mem_required h mem with ⟨a, memA, r, last?, foundA, later⟩
    rcases exists_of_mem_unlimited free h later with ⟨k, b, memB, foundB⟩
    have word : a ++ b ∈ L ^ (count + k) := append_mem_pow_add memA memB
    have found : p.after? (a ++ b) = some q := Position.after?_trans foundA foundB
    exact ⟨a ++ b, ⟨count + k, Nat.le_add_right _ _, word⟩, found⟩
  · rintro ⟨w, ⟨k, enough, mem⟩, found⟩
    exact mem_required_of_le free h enough mem found

/-- A loop with a limit recognizes the powers between its bounds. -/
theorem mem_required_upTo_iff (free : greed ≠ .possessive) (h : pass.Recognizes L) {more : Nat} :
    q ∈ required pass (fun _ => upTo greed pass more) count none p ↔
      ∃ w, (∃ k, count ≤ k ∧ k ≤ count + more ∧ w ∈ L ^ k) ∧ p.after? w = some q := by
  have rest := recognizes_upTo free h more
  constructor
  · intro mem
    rcases exists_of_mem_required h mem with ⟨a, memA, r, last?, foundA, later⟩
    rcases (rest r q).1 later with ⟨b, ⟨k, few, memB⟩, foundB⟩
    have word : a ++ b ∈ L ^ (count + k) := append_mem_pow_add memA memB
    have found : p.after? (a ++ b) = some q := Position.after?_trans foundA foundB
    have bounds : count ≤ count + k ∧ count + k ≤ count + more := by omega
    exact ⟨a ++ b, ⟨count + k, bounds.1, bounds.2, word⟩, found⟩
  · rintro ⟨w, ⟨k, enough, few, mem⟩, found⟩
    rcases Nat.exists_eq_add_of_le enough with ⟨j, rfl⟩
    -- the first words are for the required passes, the others for the optional ones
    rw [pow_add] at mem
    rcases Language.mem_mul.1 mem with ⟨a, memA, b, memB, rfl⟩
    rcases Position.after?_append.1 found with ⟨r, foundA, foundB⟩
    have later : q ∈ upTo greed pass more r :=
      (rest r q).2 ⟨b, ⟨j, Nat.le_of_add_le_add_left few, memB⟩, foundB⟩
    exact mem_required_of_pow h memA foundA fun _ => later

/-- A loop recognizes the powers that its amount allows. -/
theorem recognizes_repeated {amount : Amount} (free : greed ≠ .possessive)
    (sound : amount.isDegenerate = false) (h : M.Recognizes L) :
    (repeated amount greed M).Recognizes (amount.powers L) := by
  intro p q
  rw [repeated, commit_of_free free, optional]
  cases bound : amount.high? with
  | none =>
    rw [mem_required_unlimited_iff free h]
    simp [Amount.mem_powers, bound]
  | some high =>
    -- bounds that are in order, since something is left to repeat
    have ordered : amount.low ≤ high := by
      simp only [Amount.isDegenerate, bound, Bool.or_eq_false_iff, decide_eq_false_iff_not] at sound
      exact Nat.not_lt.1 sound.2
    have limit : amount.low + (high - amount.low) = high := Nat.add_sub_cancel' ordered
    rw [mem_required_upTo_iff free h, limit]
    simp [Amount.mem_powers, bound]

end Loops

end Matcher

end GraphemeRegex
