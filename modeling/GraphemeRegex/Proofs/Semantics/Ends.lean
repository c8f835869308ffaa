import GraphemeRegex.Lowering.Emptiness
import GraphemeRegex.Proofs.Semantics.Matcher

/-! # Ends — what a pattern matches

The meaning of a pattern at a level is a matcher, by recursion on the pattern. Constructs without
code never match.

* `Pattern.ends`: where the matches of a pattern end, in the order in which they are tried.
* `Pattern.isProper`: no alternation is without branches and no character without scalars.
* `Pattern.ends_advances`, `Pattern.ends_consumes`: what the ends say about the text in between.
-/

namespace GraphemeRegex

open Matcher

/-- The matches of an atom at a level. -/
def Atom.ends (level : MatchLevel) : Atom → Matcher
  | any => .unit (·.nextUnit? level)
  | char text => .unit (·.matchText? text level)
  | scalar c => .unit (·.matchText? [c] level)
  | cls family => .unit (·.consume? family level)
  | property _ _ | anchor _ | backreference _ => .never

/-- The matches of a group with a body. -/
def GroupKind.ends (M : Matcher) : GroupKind → Matcher
  | capture | named _ | nonCapture | branchReset | options _ _ => M
  | atomic => M.atomic
  | lookahead => M.lookahead
  | negativeLookahead => M.negated
  | nonAtomicLookahead | lookbehind | negativeLookbehind | nonAtomicLookbehind | scriptRun
  | atomicScriptRun => .never

namespace Pattern

mutual

/-- The matches of a pattern in a subject, with every class tested at the given level. -/
def ends (level : MatchLevel) (subject : Text) : Pattern → Matcher
  | alternation branches => .alternation (endsAll level subject branches)
  | concatenation items => .all (endsAll level subject items)
  | group kind body => kind.ends (ends level subject body)
  | transformed _ _ body => ends level subject body
  | repetition amount greed body =>
    if amount.isDegenerate then .nothing else .repeated amount greed (ends level subject body)
  | quote text => .unit (Position.matchString? subject · text level)
  | trivia _ | empty => .nothing
  | atom a => a.ends level
  | leveled cls _ => .unit (·.consume? cls level)
  | custom _ _ => .never

/-- The matches of each pattern of a list. -/
def endsAll (level : MatchLevel) (subject : Text) : List Pattern → List Matcher
  | [] => []
  | p :: ps => ends level subject p :: endsAll level subject ps

end

mutual

/-- No alternation is without branches and no character without scalars. -/
def isProper : Pattern → Bool
  | alternation branches => !branches.isEmpty && allProper branches
  | concatenation items => allProper items
  | group _ body | transformed _ _ body | repetition _ _ body => isProper body
  | atom (.char text) => !text.isEmpty
  | atom _ | leveled _ _ | quote _ | trivia _ | custom _ _ | empty => true

/-- The patterns of a list are all proper. -/
def allProper : List Pattern → Bool
  | [] => true
  | p :: ps => isProper p && allProper ps

end

end Pattern

/-! ## Moving forward -/

/-- The next unit of either level is text that is not empty. -/
theorem Position.after?_of_nextUnit? {p q : Position} {level : MatchLevel} {text : Text}
    (h : p.nextUnit? level = some (text, q)) : p.after? text = some q ∧ text ≠ [] := by
  cases level with
  | grapheme => exact after?_of_nextCluster? h
  | scalar =>
    rcases Option.map_eq_some_iff.1 h with ⟨⟨c, _⟩, found, pair⟩
    cases pair
    exact ⟨after?_of_nextScalar? found, by simp⟩

/-- An atom ends behind what it takes. -/
theorem Atom.ends_advances (level : MatchLevel) (a : Atom) : (a.ends level).Advances := by
  cases a with
  | any => exact advances_unit fun _ _ _ h => (Position.after?_of_nextUnit? h).1
  | char _ | scalar _ => exact advances_unit fun _ _ _ h => (Position.after?_of_matchText? h).1
  | cls _ => exact advances_unit fun _ _ _ h => (Position.after?_of_consume? h).1
  | property _ _ | anchor _ | backreference _ => exact advances_never

/-- A group ends where its body does, or where it began. -/
theorem GroupKind.ends_advances {M : Matcher} (kind : GroupKind) (h : M.Advances) :
    (kind.ends M).Advances := by
  cases kind <;>
    first
    | exact h
    | exact advances_atomic h
    | exact advances_lookahead
    | exact advances_negated
    | exact advances_never

namespace Pattern

mutual

/-- No match of a pattern ends before it begins. -/
theorem ends_advances (level : MatchLevel) (subject : Text) :
    ∀ t : Pattern, (t.ends level subject).Advances
  | alternation branches => advances_alternation (endsAll_advances level subject branches)
  | concatenation items => advances_all (endsAll_advances level subject items)
  | group kind body => kind.ends_advances (ends_advances level subject body)
  | transformed _ _ body => ends_advances level subject body
  | repetition amount greed body => by
    rw [ends]
    split
    · exact advances_nothing
    · exact advances_repeated amount (ends_advances level subject body)
  | quote text => advances_unit fun _ _ _ h => (Position.after?_of_matchString? h).1
  | trivia _ | empty => advances_nothing
  | atom a => a.ends_advances level
  | leveled cls _ => advances_unit fun _ _ _ h => (Position.after?_of_consume? h).1
  | custom _ _ => advances_never

theorem endsAll_advances (level : MatchLevel) (subject : Text) :
    ∀ ts : List Pattern, ∀ M ∈ endsAll level subject ts, M.Advances
  | [] => fun _ mem => absurd mem List.not_mem_nil
  | t :: ts => fun M mem => by
    rcases List.mem_cons.1 mem with rfl | mem
    · exact ends_advances level subject t
    · exact endsAll_advances level subject ts M mem

end

end Pattern

/-! ## Consuming -/

/-- An atom that may not be empty takes something. -/
theorem Atom.ends_consumes {level : MatchLevel} {a : Atom} (filled : a.mayBeEmpty = false)
    (proper : (Pattern.atom a).isProper = true) : (a.ends level).Consumes := by
  cases a with
  | any => exact consumes_unit fun _ _ _ h => Position.after?_of_nextUnit? h
  | char text =>
    refine consumes_unit ?_
    intro _ _ _ h
    rcases Position.after?_of_matchText? h with ⟨between, rfl⟩
    -- a proper character has scalars
    exact ⟨between, by simpa [Pattern.isProper] using proper⟩
  | scalar c =>
    refine consumes_unit ?_
    intro _ _ _ h
    rcases Position.after?_of_matchText? h with ⟨between, rfl⟩
    exact ⟨between, by simp⟩
  | cls _ => exact consumes_unit fun _ _ _ h => Position.after?_of_consume? h
  | property _ _ | anchor _ | backreference _ => exact consumes_never

/-- What does not look around takes what its body does. -/
theorem GroupKind.ends_consumes {M : Matcher} {kind : GroupKind}
    (outside : kind.looksAround = false) (h : M.Consumes) : (kind.ends M).Consumes := by
  cases kind with
  | capture | named _ | nonCapture | branchReset | options _ _ => exact h
  | atomic => exact consumes_atomic h
  | scriptRun | atomicScriptRun => exact consumes_never
  | _ => exact absurd outside (by decide)

namespace Pattern

mutual

/-- A proper pattern that may not be empty consumes something in each of its matches. -/
theorem ends_consumes (level : MatchLevel) (subject : Text) : ∀ t : Pattern,
    t.mayBeEmpty = false → t.isProper = true → (t.ends level subject).Consumes
  | alternation branches, filled, proper => by
    rw [isProper, Bool.and_eq_true] at proper
    exact consumes_alternation (endsAll_consumes level subject branches filled proper.2)
  | concatenation items, filled, proper => consumes_all level subject items filled proper
  | group kind body, filled, proper => by
    rw [mayBeEmpty, Bool.or_eq_false_iff] at filled
    exact GroupKind.ends_consumes filled.1 (ends_consumes level subject body filled.2 proper)
  | transformed _ kind body, filled, proper => by
    rw [mayBeEmpty, Bool.or_eq_false_iff] at filled
    exact ends_consumes level subject body filled.2 proper
  | repetition amount greed body, filled, proper => by
    simp only [mayBeEmpty, Bool.or_eq_false_iff, beq_eq_false_iff_ne, ne_eq] at filled
    rcases filled with ⟨⟨passes, ordered⟩, inside⟩
    -- a loop with a required pass and bounds in order is not left out
    have sound : amount.isDegenerate = false := by
      unfold Amount.isDegenerate
      cases high : amount.high? with
      | none => rfl
      | some high =>
        simp only [high, Option.any_some, decide_eq_false_iff_not, Nat.not_lt] at ordered
        simp only [Bool.or_eq_false_iff, beq_eq_false_iff_ne, decide_eq_false_iff_not]
        omega
    rw [ends, sound]
    exact consumes_repeated passes (ends_consumes level subject body inside proper)
      (ends_advances level subject body)
  | quote text, filled, _ => by
    refine consumes_unit ?_
    intro _ _ _ h
    rcases Position.after?_of_matchString? h with ⟨between, rfl⟩
    exact ⟨between, by simpa [mayBeEmpty] using filled⟩
  | atom a, filled, proper => Atom.ends_consumes filled proper
  | leveled cls _, _, _ => consumes_unit fun _ _ _ h => Position.after?_of_consume? h
  | custom _ _, _, _ => consumes_never

/-- If one of several items may not be empty, their sequence consumes something. -/
theorem consumes_all (level : MatchLevel) (subject : Text) : ∀ ts : List Pattern,
    allMayBeEmpty ts = false → allProper ts = true → (all (endsAll level subject ts)).Consumes
  | [], filled, _ => nomatch filled
  | t :: ts, filled, proper => by
    rw [allProper, Bool.and_eq_true] at proper
    rw [allMayBeEmpty, Bool.and_eq_false_iff] at filled
    -- one of the items consumes something, and the others do not move back
    rcases filled with filled | filled
    · exact consumes_append_left (ends_consumes level subject t filled proper.1)
        (advances_all (endsAll_advances level subject ts))
    · exact consumes_append_right (ends_advances level subject t)
        (consumes_all level subject ts filled proper.2)

/-- If no branch may be empty, each of them consumes something. -/
theorem endsAll_consumes (level : MatchLevel) (subject : Text) : ∀ ts : List Pattern,
    anyMayBeEmpty ts = false → allProper ts = true → ∀ M ∈ endsAll level subject ts, M.Consumes
  | [], _, _ => fun _ mem => absurd mem List.not_mem_nil
  | t :: ts, filled, proper => fun M mem => by
    rw [allProper, Bool.and_eq_true] at proper
    rw [anyMayBeEmpty, Bool.or_eq_false_iff] at filled
    rcases List.mem_cons.1 mem with rfl | mem
    · exact ends_consumes level subject t filled.1 proper.1
    · exact endsAll_consumes level subject ts filled.2 proper.2 M mem

end

end Pattern

end GraphemeRegex
