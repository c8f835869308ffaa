import GraphemeRegex.Proofs.Semantics.Ends

/-! # Visits — the ends that a run visits in a number of steps

An alternation without branches has no code, so that it consumes nothing, though it counts as a
pattern that does. A loop without a limit is not watched over such a body and may go on for ever. A
run that halts visits only so many of its passes as it makes steps.

* `Pattern.visits`: the ends of a pattern that a run visits, if it makes so many steps.
* `Pattern.visits_none`: without a bound, these are all the ends of a proper pattern.
-/

namespace GraphemeRegex

open Matcher

namespace Pattern

mutual

/-- The ends of a pattern that a run visits in order, with loops that are not watched as far as so
many steps go. -/
def visits (steps? : Option Nat) (level : MatchLevel) (subject : Text) : Pattern → Matcher
  | alternation branches =>
    if branches.isEmpty then .nothing else .alternation (visitsAll steps? level subject branches)
  | concatenation items => .all (visitsAll steps? level subject items)
  | group kind body => kind.ends (visits steps? level subject body)
  | transformed _ _ body => visits steps? level subject body
  | repetition amount greed body =>
    if amount.isDegenerate then .nothing
    else .repeatedWithin steps? body.mayBeEmpty amount greed (visits steps? level subject body)
  | quote text => .unit (Position.matchString? subject · text level)
  | trivia _ | empty => .nothing
  | atom a => a.ends level
  | leveled cls _ => .unit (·.consume? cls level)
  | custom _ _ => .never

/-- The visited ends of each pattern of a list. -/
def visitsAll (steps? : Option Nat) (level : MatchLevel) (subject : Text) :
    List Pattern → List Matcher
  | [] => []
  | p :: ps => visits steps? level subject p :: visitsAll steps? level subject ps

end

variable (steps? : Option Nat) (level : MatchLevel) (subject : Text)

mutual

/-- No visited match ends before it begins. -/
theorem visits_advances : ∀ t : Pattern, (t.visits steps? level subject).Advances
  | alternation branches => by
    rw [visits]
    split
    · exact advances_nothing
    · exact advances_alternation (visitsAll_advances branches)
  | concatenation items => advances_all (visitsAll_advances items)
  | group kind body => kind.ends_advances (visits_advances body)
  | transformed _ _ body => visits_advances body
  | repetition amount greed body => by
    rw [visits]
    split
    · exact advances_nothing
    · exact advances_repeatedWithin steps? body.mayBeEmpty amount (visits_advances body)
  | quote text => advances_unit fun _ _ _ h => (Position.after?_of_matchString? h).1
  | trivia _ | empty => advances_nothing
  | atom a => a.ends_advances level
  | leveled cls _ => advances_unit fun _ _ _ h => (Position.after?_of_consume? h).1
  | custom _ _ => advances_never

/-- No visited match of one of several patterns ends before it begins. -/
theorem visitsAll_advances :
    ∀ ts : List Pattern, ∀ M ∈ visitsAll steps? level subject ts, M.Advances
  | [] => fun _ mem => absurd mem List.not_mem_nil
  | t :: ts => fun M mem => by
    rcases List.mem_cons.1 mem with rfl | mem
    · exact visits_advances t
    · exact visitsAll_advances ts M mem

end

mutual

/-- Without a bound on the steps, all ends of a proper pattern are visited. -/
theorem visits_none : ∀ t : Pattern, t.isProper = true →
    t.visits none level subject = t.ends level subject
  | alternation branches, proper => by
    rw [isProper, Bool.and_eq_true, Bool.not_eq_true'] at proper
    rw [visits, ends, proper.1, visitsAll_none branches proper.2]
    rfl
  | concatenation items, proper => congrArg all (visitsAll_none items proper)
  | group kind body, proper => by rw [visits, ends, visits_none body proper]
  | transformed _ _ body, proper => visits_none body proper
  | repetition amount greed body, proper => by
    rw [visits, ends, visits_none body proper, repeatedWithin_none]
  | quote _, _ | trivia _, _ | empty, _ | atom _, _ | leveled _ _, _ | custom _ _, _ => rfl

/-- The same for the patterns of a list. -/
theorem visitsAll_none : ∀ ts : List Pattern, allProper ts = true →
    visitsAll none level subject ts = endsAll level subject ts
  | [], _ => rfl
  | t :: ts, proper => by
    rw [allProper, Bool.and_eq_true] at proper
    rw [visitsAll, endsAll, visits_none t proper.1, visitsAll_none ts proper.2]

end

end Pattern

end GraphemeRegex
