import GraphemeRegex.Pattern.Basic
import GraphemeRegex.Proofs.Text.Reach

/-! # Matchers — the ends of matches, in order

A matcher lists, for a position, where the matches that begin there end, in the order in which
backtracking tries them. There is one combination for each construct of patterns.

* `Matcher.append`, `Matcher.alternation`, `Matcher.atomic`, `Matcher.lookahead`,
  `Matcher.negated`: sequences, branches and groups.
* `Matcher.upTo`, `Matcher.unlimited`, `Matcher.repeated`: loops.
* `Matcher.repeatedWithin`: loops as far as a number of steps goes.
* `Matcher.Advances`: no match ends before it begins.
* `Matcher.Consumes`: no match ends where it begins.
-/

namespace GraphemeRegex

/-- The ends of the matches that begin at a position, in the order in which they are tried. -/
abbrev Matcher := Position → List Position

/-! ## Greed -/

namespace Greed

/-- What a loop keeps of the ends of one pass. -/
def commit : Greed → List Position → List Position
  | possessive, ends => ends.take 1
  | _, ends => ends

/-- The ends of a loop that can go on for one more pass or stop. -/
def prefer : Greed → (more stop : List Position) → List Position
  | eager, more, stop => more ++ stop
  | reluctant, more, stop => stop ++ more
  | possessive, more, stop => (more ++ stop).take 1

/-- A loop keeps some of the ends of a pass and makes up none. -/
theorem mem_of_mem_commit {greed : Greed} {q : Position} {ends : List Position}
    (mem : q ∈ greed.commit ends) : q ∈ ends := by
  cases greed with
  | possessive => exact List.mem_of_mem_take mem
  | eager | reluctant => exact mem

/-- Whichever is preferred, an end is one of going on or the one of stopping. -/
theorem mem_of_mem_prefer {greed : Greed} {q : Position} {more stop : List Position}
    (mem : q ∈ greed.prefer more stop) : q ∈ more ∨ q ∈ stop := by
  cases greed with
  | eager => exact List.mem_append.1 mem
  | reluctant => exact (List.mem_append.1 mem).symm
  | possessive => exact List.mem_append.1 (List.mem_of_mem_take mem)

/-- A possessive loop has one end. -/
theorem exists_prefer_possessive (more : List Position) (p : Position) :
    ∃ r, possessive.prefer more [p] = [r] := by
  cases more with
  | nil => exact ⟨p, rfl⟩
  | cons q more => exact ⟨q, rfl⟩

end Greed

/-! ## Combinations -/

namespace Matcher

/-- Consumes nothing. -/
def nothing : Matcher := fun p => [p]

/-- Never matches. -/
def never : Matcher := fun _ => []

/-- What is taken from the subject at a position, if there is something to take. -/
def unit (take : Position → Option (Text × Position)) : Matcher := fun p =>
  ((take p).map (·.2)).toList

/-- One match behind the other. -/
def append (M N : Matcher) : Matcher := fun p => (M p).flatMap N

/-- Matches one behind the other. -/
def all : List Matcher → Matcher
  | [] => nothing
  | M :: Ms => M.append (all Ms)

/-- The first branch, then the others. -/
def alternation : List Matcher → Matcher
  | [] => never
  | M :: Ms => fun p => M p ++ alternation Ms p

/-- Only the first way to match. -/
def atomic (M : Matcher) : Matcher := fun p => (M p).take 1

/-- Whether there is a match, without consuming it. -/
def lookahead (M : Matcher) : Matcher := fun p => if (M p).isEmpty then [] else [p]

/-- Whether there is no match. -/
def negated (M : Matcher) : Matcher := fun p => if (M p).isEmpty then [p] else []

/-- At most `count` more passes. -/
def upTo (greed : Greed) (pass : Matcher) : (count : Nat) → Matcher
  | 0, p => [p]
  | count + 1, p => greed.prefer ((pass p).flatMap (upTo greed pass count)) [p]

/-- More passes as long as each of them consumes something; `last?` is where the last pass began. -/
def unlimited (greed : Greed) (pass : Matcher) : (last? : Option Position) → Matcher
  | last?, p =>
    if last?.any (·.rest.length ≤ p.rest.length) then [p]
    else greed.prefer ((pass p).flatMap fun q => unlimited greed pass (some p) q) [p]
termination_by last? p => (last?.map (·.rest.length)).getD (p.rest.length + 1)
decreasing_by
  cases last? with
  | none => simp
  | some last => simp_all

/-- A possessive loop always has an end, and only one: if nothing more matches, it stops. -/
theorem exists_upTo_possessive (pass : Matcher) (count : Nat) (p : Position) :
    ∃ r, upTo .possessive pass count p = [r] := by
  cases count with
  | zero => exact ⟨p, rfl⟩
  | succ count => exact Greed.exists_prefer_possessive _ p

theorem exists_unlimited_possessive (pass : Matcher) (last? : Option Position) (p : Position) :
    ∃ r, unlimited .possessive pass last? p = [r] := by
  rw [unlimited]
  split
  · exact ⟨p, rfl⟩
  · exact Greed.exists_prefer_possessive _ p

/-- A number of passes and what follows them, which is told where the last pass began. -/
def required (pass : Matcher) (after : Option Position → Matcher) :
    (count : Nat) → (last? : Option Position) → Matcher
  | 0, last?, p => after last? p
  | count + 1, _, p => (pass p).flatMap (required pass after count (some p))

/-- The passes that an amount allows behind those that it requires. -/
def optional (amount : Amount) (greed : Greed) (pass : Matcher) :
    (last? : Option Position) → Matcher :=
  match amount.high? with
  | some high => fun _ => upTo greed pass (high - amount.low)
  | none => unlimited greed pass

/-- A loop: the passes that an amount requires, then those that it allows. -/
def repeated (amount : Amount) (greed : Greed) (M : Matcher) : Matcher :=
  let pass : Matcher := fun p => greed.commit (M p)
  required pass (optional amount greed pass) amount.low none

/-- Like `optional`, but where only so many steps are made, a loop without a limit that is not
watched makes no more passes than that. -/
def optionalWithin (steps? : Option Nat) (watched : Bool) (amount : Amount) (greed : Greed)
    (pass : Matcher) (last? : Option Position) : Matcher :=
  match if amount.high?.isNone && !watched then steps? else none with
  | some count => upTo greed pass count
  | none => optional amount greed pass last?

/-- Like `repeated`, but where only so many steps are made, a loop without a limit that is not
watched makes no more passes than that. -/
def repeatedWithin (steps? : Option Nat) (watched : Bool) (amount : Amount) (greed : Greed)
    (M : Matcher) : Matcher :=
  let pass : Matcher := fun p => greed.commit (M p)
  required pass (optionalWithin steps? watched amount greed pass) amount.low none

/-- Without a number of steps, the loop of a pattern is meant. -/
theorem repeatedWithin_none (watched : Bool) (amount : Amount) (greed : Greed) (M : Matcher) :
    repeatedWithin none watched amount greed M = repeated amount greed M := by
  unfold repeatedWithin repeated optionalWithin
  rw [ite_self]

/-! ## Moving forward -/

/-- No match ends before it begins. -/
def Advances (M : Matcher) : Prop := ∀ p, ∀ q ∈ M p, p.Reaches q

variable {M N : Matcher}

/-- Each combination advances if its parts do. This one has no parts. -/
theorem advances_nothing : nothing.Advances := by
  intro p q mem
  rw [List.mem_singleton.1 mem]
  exact .refl p

theorem advances_never : never.Advances := by
  intro p q mem
  exact absurd mem List.not_mem_nil

/-- A unit has one end at most. -/
theorem mem_unit {take : Position → Option (Text × Position)} {p q : Position} :
    q ∈ unit take p ↔ ∃ text, take p = some (text, q) := by
  simp [unit]

theorem advances_unit {take : Position → Option (Text × Position)}
    (h : ∀ p text q, take p = some (text, q) → p.after? text = some q) :
    (unit take).Advances := by
  intro p q mem
  rcases mem_unit.1 mem with ⟨text, found⟩
  exact ⟨text, h p text q found⟩

/-- The way to the end is made of the two ways. -/
theorem advances_append (hM : M.Advances) (hN : N.Advances) : (M.append N).Advances := by
  intro p r mem
  rcases List.mem_flatMap.1 mem with ⟨q, first, second⟩
  exact (hM p q first).trans (hN q r second)

theorem advances_all {Ms : List Matcher} (h : ∀ M ∈ Ms, M.Advances) : (all Ms).Advances := by
  induction Ms with
  | nil => exact advances_nothing
  | cons M Ms ih =>
    refine advances_append (h M (by simp)) (ih ?_)
    intro N mem
    exact h N (by simp [mem])

/-- Each end of an alternation is one of a branch. -/
theorem advances_alternation {Ms : List Matcher} (h : ∀ M ∈ Ms, M.Advances) :
    (alternation Ms).Advances := by
  induction Ms with
  | nil => exact advances_never
  | cons M Ms ih =>
    intro p q mem
    rcases List.mem_append.1 mem with mem | mem
    · exact h M (by simp) p q mem
    · refine ih ?_ p q mem
      intro N found
      exact h N (by simp [found])

theorem advances_atomic (h : M.Advances) : M.atomic.Advances := by
  intro p q mem
  exact h p q (List.mem_of_mem_take mem)

/-- Looking ahead ends where it begins, whatever is seen there. -/
theorem eq_of_mem_lookahead {p q : Position} (mem : q ∈ M.lookahead p) : q = p := by
  unfold lookahead at mem
  split at mem
  · exact absurd mem List.not_mem_nil
  · exact List.mem_singleton.1 mem

/-- A lookahead advances even if its body does not. -/
theorem advances_lookahead : M.lookahead.Advances := by
  intro p q mem
  rw [eq_of_mem_lookahead mem]
  exact .refl p

/-- The same holds of a negated body. -/
theorem eq_of_mem_negated {p q : Position} (mem : q ∈ M.negated p) : q = p := by
  unfold negated at mem
  split at mem
  · exact List.mem_singleton.1 mem
  · exact absurd mem List.not_mem_nil

theorem advances_negated : M.negated.Advances := by
  intro p q mem
  rw [eq_of_mem_negated mem]
  exact .refl p

section Loops

variable {greed : Greed} {pass : Matcher}

/-- Going on advances, and stopping stays. -/
theorem advances_prefer {more : Matcher} (h : more.Advances) :
    Advances fun p => greed.prefer (more p) [p] := by
  intro p q mem
  rcases Greed.mem_of_mem_prefer mem with mem | mem
  · exact h p q mem
  · rw [List.mem_singleton.1 mem]
    exact .refl p

/-- By induction on the number of passes that are left. -/
theorem advances_upTo (h : pass.Advances) (count : Nat) : (upTo greed pass count).Advances := by
  induction count with
  | zero => exact advances_nothing
  | succ count ih => exact advances_prefer (advances_append h ih)

/-- By induction on what remains of the subject, as in the definition of the loop. -/
theorem advances_unlimited (h : pass.Advances) (last? : Option Position) :
    (unlimited greed pass last?).Advances := by
  intro p
  induction last?, p using unlimited.induct with
  | case1 last? p stuck =>
    rw [unlimited, if_pos stuck]
    exact advances_nothing p
  | case2 last? p moved ih =>
    rw [unlimited, if_neg moved]
    intro r mem
    -- one more pass and then the rest of the loop, or no more passes
    rcases Greed.mem_of_mem_prefer mem with mem | mem
    · rcases List.mem_flatMap.1 mem with ⟨q, first, second⟩
      exact (h p q first).trans (ih q r second)
    · exact advances_nothing p r mem

theorem advances_optional (amount : Amount) (h : pass.Advances) (last? : Option Position) :
    (optional amount greed pass last?).Advances := by
  unfold optional
  cases amount.high? with
  | some high => exact advances_upTo h _
  | none => exact advances_unlimited h last?

theorem advances_optionalWithin (steps? : Option Nat) (watched : Bool) (amount : Amount)
    (h : pass.Advances) (last? : Option Position) :
    (optionalWithin steps? watched amount greed pass last?).Advances := by
  unfold optionalWithin
  split
  · exact advances_upTo h _
  · exact advances_optional amount h last?

/-- The passes that are required advance, and so does what comes behind them. -/
theorem advances_required {after : Option Position → Matcher} (h : pass.Advances)
    (h' : ∀ last?, (after last?).Advances) (count : Nat) (last? : Option Position) :
    (required pass after count last?).Advances := by
  induction count generalizing last? with
  | zero => exact h' last?
  | succ count ih =>
    intro p r mem
    rcases List.mem_flatMap.1 mem with ⟨q, first, second⟩
    exact (h p q first).trans (ih _ q r second)

/-- A loop advances if its body does. -/
theorem advances_repeated (amount : Amount) (h : M.Advances) :
    (repeated amount greed M).Advances := by
  have pass : Advances fun p => greed.commit (M p) := by
    intro p q mem
    exact h p q (Greed.mem_of_mem_commit mem)
  exact advances_required pass (advances_optional amount pass) _ _

theorem advances_repeatedWithin (steps? : Option Nat) (watched : Bool) (amount : Amount)
    (h : M.Advances) : (repeatedWithin steps? watched amount greed M).Advances := by
  have pass : Advances fun p => greed.commit (M p) := by
    intro p q mem
    exact h p q (Greed.mem_of_mem_commit mem)
  exact advances_required pass (advances_optionalWithin steps? watched amount pass) _ _

end Loops

/-! ## Consuming -/

/-- No match ends where it begins. -/
def Consumes (M : Matcher) : Prop := ∀ p, ∀ q ∈ M p, q.rest.length < p.rest.length

theorem consumes_never : never.Consumes := by
  intro p q mem
  exact absurd mem List.not_mem_nil

/-- What is taken is not empty. -/
theorem consumes_unit {take : Position → Option (Text × Position)}
    (h : ∀ p text q, take p = some (text, q) → p.after? text = some q ∧ text ≠ []) :
    (unit take).Consumes := by
  intro p q mem
  rcases mem_unit.1 mem with ⟨text, found⟩
  rcases h p text q found with ⟨between, filled⟩
  rw [(Position.after?_eq_some_iff.1 between).1, List.length_append]
  have := List.length_pos_iff.2 filled
  omega

/-- In a sequence it is enough that one part consumes something. Here it is the first. -/
theorem consumes_append_left (hM : M.Consumes) (hN : N.Advances) : (M.append N).Consumes := by
  intro p r mem
  rcases List.mem_flatMap.1 mem with ⟨q, first, second⟩
  exact Nat.lt_of_le_of_lt (hN q r second).length_le (hM p q first)

/-- Here it is the second. -/
theorem consumes_append_right (hM : M.Advances) (hN : N.Consumes) : (M.append N).Consumes := by
  intro p r mem
  rcases List.mem_flatMap.1 mem with ⟨q, first, second⟩
  exact Nat.lt_of_lt_of_le (hN q r second) (hM p q first).length_le

/-- In an alternation all branches have to. -/
theorem consumes_alternation {Ms : List Matcher} (h : ∀ M ∈ Ms, M.Consumes) :
    (alternation Ms).Consumes := by
  induction Ms with
  | nil => exact consumes_never
  | cons M Ms ih =>
    intro p q mem
    rcases List.mem_append.1 mem with mem | mem
    · exact h M (by simp) p q mem
    · refine ih ?_ p q mem
      intro N found
      exact h N (by simp [found])

theorem consumes_atomic (h : M.Consumes) : M.atomic.Consumes := by
  intro p q mem
  exact h p q (List.mem_of_mem_take mem)

/-- The first of the required passes consumes something, and nothing moves back behind it. -/
theorem consumes_required {pass : Matcher} {after : Option Position → Matcher} {count : Nat}
    (h : pass.Consumes) (h' : pass.Advances) (h'' : ∀ last?, (after last?).Advances)
    (passes : count ≠ 0) (last? : Option Position) :
    (required pass after count last?).Consumes := by
  rcases Nat.exists_eq_succ_of_ne_zero passes with ⟨count, rfl⟩
  intro p r mem
  rcases List.mem_flatMap.1 mem with ⟨q, first, second⟩
  have further := advances_required h' h'' count _ q r second
  exact Nat.lt_of_le_of_lt further.length_le (h p q first)

/-- A loop with a required pass consumes something if its body does. -/
theorem consumes_repeated {amount : Amount} {greed : Greed} (passes : amount.low ≠ 0)
    (h : M.Consumes) (h' : M.Advances) : (repeated amount greed M).Consumes := by
  have pass : Consumes fun p => greed.commit (M p) := by
    intro p q mem
    exact h p q (Greed.mem_of_mem_commit mem)
  have pass' : Advances fun p => greed.commit (M p) := by
    intro p q mem
    exact h' p q (Greed.mem_of_mem_commit mem)
  exact consumes_required pass pass' (advances_optional amount pass') passes _

end Matcher

end GraphemeRegex
