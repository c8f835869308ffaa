import GraphemeRegex.Proofs.Lowering.Emission
import GraphemeRegex.Proofs.Lowering.Looping
import GraphemeRegex.Proofs.Machine.Evaluation
import GraphemeRegex.Proofs.Semantics.Visits

/-! # Correctness — compiled patterns match as their ends say

A program that was made from a pattern tries the ends of the pattern in their order, until one of
them is accepted. The pattern must be proper, or the run must halt, and the program must not have so
many registers that their numbers start again from zero.

* `Pattern.computes`: the code of a pattern visits its ends.
* `Pattern.evaluates`: without limits, the program halts with the first end that is accepted.
* `Pattern.eq_find?_visits`: if the program halts, then with the first visited end that is accepted.
-/

namespace GraphemeRegex

open Machine

variable {m : Machine} {steps? : Option Nat}

/-! ## Atoms and groups -/

/-- An atom is one instruction, which has one end or none. -/
theorem Atom.computes (level : MatchLevel) (a : Atom) :
    m.Computes steps? (a.fragment level) (a.ends level) := by
  cases a with
  | any =>
    cases level with
    | grapheme =>
      exact computes_unit fun s => congrArg s.afterConsuming (Position.nextClusters?_one s.pos)
    | scalar =>
      exact computes_unit fun s => congrArg s.afterConsuming (Position.consume?_anyScalar s.pos)
  | char _ | scalar _ | cls _ => exact computes_unit fun _ => rfl
  | property _ _ | anchor _ | backreference _ => exact computes_never _

/-- A group visits the ends of its kind, if the body visits its own. -/
theorem GroupKind.computes {F : Fragment} {M : Matcher} (kind : GroupKind)
    (h : m.Computes steps? F M) (hF : F.Forward) :
    m.Computes steps? (kind.fragment F) (kind.ends M) := by
  cases kind with
  | capture | named _ | nonCapture | branchReset | options _ _ => exact h
  | atomic => exact computes_atomic h hF
  | lookahead => exact computes_lookahead h hF
  | negativeLookahead => exact computes_negated h hF
  | nonAtomicLookahead | lookbehind | negativeLookbehind | nonAtomicLookbehind | scriptRun
  | atomicScriptRun => exact computes_never _

/-! ## Patterns -/

namespace Pattern

mutual

/-- The code of a pattern visits the ends of the pattern. The pattern must be proper, unless only so
many steps are made. -/
theorem computes (few : m.program.FewRegisters) (level : MatchLevel) : ∀ t : Pattern,
    (steps? = none → t.isProper = true) →
    m.Computes steps? (t.fragment level) (t.visits steps? level m.subject)
  | alternation branches, proper => by
    rw [fragment, visits]
    split
    · rename_i empty
      rw [List.isEmpty_iff.1 empty]
      exact computes_nothing
    · rename_i filled
      refine computes_alternation few level branches (by simpa using filled) ?_
      intro endless
      have proper := proper endless
      rw [isProper, Bool.and_eq_true] at proper
      exact proper.2
  | concatenation items, proper => computes_all few level items proper
  | group kind body, proper =>
    kind.computes (computes few level body proper) (fragment_forward level body)
  | transformed _ _ body, proper => computes few level body proper
  | repetition amount greed body, proper => by
    rw [fragment, visits]
    split
    · exact computes_nothing
    · refine computes_repeated amount greed body.mayBeEmpty (computes few level body proper)
        (fragment_forward level body) (visits_advances _ level m.subject body) ?_ few
      rintro rfl filled
      -- without a bound on the steps, an unwatched body has to consume something in each pass
      rw [visits_none level m.subject body (proper rfl)]
      exact ends_consumes level m.subject body filled (proper rfl)
  | quote text, _ => computes_string text level
  | trivia _, _ | empty, _ => computes_nothing
  | atom a, _ => a.computes level
  | leveled _ _, _ => computes_unit fun _ => rfl
  | custom _ _, _ => computes_never _

/-- A sequence visits the ends of its items, one item after the other. -/
theorem computes_all (few : m.program.FewRegisters) (level : MatchLevel) : ∀ ts : List Pattern,
    (steps? = none → allProper ts = true) →
    m.Computes steps? (.all (fragments level ts)) (.all (visitsAll steps? level m.subject ts))
  | [], _ => computes_nothing
  | t :: ts, proper => by
    simp only [allProper, Bool.and_eq_true] at proper
    exact computes_append (computes few level t fun endless => (proper endless).1)
      (computes_all few level ts fun endless => (proper endless).2)
      (fragment_forward level t) (Fragment.forward_all (fragments_forward level ts))

/-- Branches visit their ends, one branch after the other. -/
theorem computes_alternation (few : m.program.FewRegisters) (level : MatchLevel) :
    ∀ ts : List Pattern, ts ≠ [] → (steps? = none → allProper ts = true) →
    m.Computes steps? (.alternation (fragments level ts))
      (.alternation (visitsAll steps? level m.subject ts))
  | [], filled, _ => absurd rfl filled
  | [t], _, proper => by
    simp only [allProper, Bool.and_eq_true] at proper
    exact computes_alternation_singleton (computes few level t fun endless => (proper endless).1)
  | t :: t' :: ts, _, proper => by
    rw [allProper, Bool.and_eq_true] at proper
    exact computes_alternation_cons (computes few level t fun endless => (proper endless).1)
      (computes_alternation few level (t' :: ts) (List.cons_ne_nil _ _)
        fun endless => (proper endless).2)
      (fragment_forward level t)
      (Fragment.forward_alternation (fragments_forward level (t' :: ts)))

end

/-! ## Programs -/

/-- The demand at the end of a program: the end is the answer if it is accepted. -/
def answering (m : Machine) (answer : Option Position) : Demand where
  holds q rest := (m.acceptsAt q = true → answer = some q) ∧ (m.acceptsAt q = false → rest)
  mono _ _ _ imp h := ⟨h.1, fun refused => imp (h.2 refused)⟩

/-- The demand on all ends is that the first accepted one is the answer. -/
theorem along_answering {answer : Option Position} {ends : List Position}
    (first : answer = ends.find? m.acceptsAt) :
    (answering m answer).along ends (answer = none) := by
  induction ends with
  | nil => exact first
  | cons q ends ih =>
    rw [List.find?_cons] at first
    constructor
    · intro accepted
      rw [first, accepted]
    · intro refused
      rw [refused] at first
      exact ih first

/-- Where a program visits an end of its pattern, it halts there or falls back. -/
theorem meets_answering {level : MatchLevel} {t : Pattern} {stop : Cursor}
    {answer : Option Position} {goal : Step → Prop} (compiled : t.Compiled level m.program stop)
    (halted : goal (.halt answer)) (s : State) :
    m.Meets .start stop s goal (answering m answer) := by
  intro easier eases s' rest exits _ back holds
  refine eases.pull s' ?_
  rw [step_of_code (exits.ip ▸ compiled.accept), execute]
  split
  · rename_i accepted
    rw [← holds.1 accepted]
    exact eases.imp halted
  · rename_i refused
    exact back (holds.2 (Bool.eq_false_iff.2 refused))

/-- The program reaches every goal that is reached by halting with the first visited end that is
accepted. -/
theorem goal_of_compiled {level : MatchLevel} {t : Pattern} {stop : Cursor} {start : Position}
    {goal : Step → Prop} (compiled : t.Compiled level m.program stop)
    (proper : steps? = none → t.isProper = true) (few : m.program.FewRegisters)
    (pulls : m.Pulls steps? goal)
    (halted : goal (.halt ((t.visits steps? level m.subject start).find? m.acceptsAt))) :
    goal (.next (.initial m.program start)) := by
  -- the answer is demanded of the first end that is accepted
  generalize first : (t.visits steps? level m.subject start).find? m.acceptsAt = answer at halted
  refine computes few level t proper _ _ compiled.code goal pulls (answering m answer)
    (.initial m.program start) (answer = none) rfl (State.sized_initial _ _) ?_
    (meets_answering compiled halted _) (along_answering first.symm)
  rintro rfl
  exact halted

/-- Without limits, the program of a proper pattern halts with the first end that is accepted. -/
theorem evaluates {level : MatchLevel} {t : Pattern} {stop : Cursor}
    (compiled : t.Compiled level m.program stop) (proper : t.isProper = true)
    (few : m.program.FewRegisters) (start : Position) :
    m.Evaluates (.next (.initial m.program start))
      ((t.ends level m.subject start).find? m.acceptsAt) := by
  generalize first : (t.ends level m.subject start).find? m.acceptsAt = answer
  have pulls : m.Pulls none (m.Evaluates · answer) := ⟨fun _ => .next, nofun⟩
  refine goal_of_compiled compiled (fun _ => proper) few pulls ?_
  rw [visits_none level m.subject t proper, first]
  exact .halt answer

/-- A run that halts within so many instructions has the first visited end that is accepted as its
answer. -/
theorem eq_find?_visits {level : MatchLevel} {t : Pattern} {stop : Cursor} {start : Position}
    {r : Option Position} {steps : Nat} (compiled : t.Compiled level m.program stop)
    (few : m.program.FewRegisters) (evaluates : m.Evaluates (.next (.initial m.program start)) r)
    (halts : m.HaltsIn steps (.next (.initial m.program start))) :
    r = (t.visits (some steps) level m.subject start).find? m.acceptsAt := by
  generalize first : (t.visits (some steps) level m.subject start).find? m.acceptsAt = answer
  have pulls : m.Pulls none fun step => ∀ r, m.Evaluates step r → r = answer := by
    refine ⟨?_, nofun⟩
    rintro s unique r (_ | later)
    exact unique r later
  -- the goal is given up where the run does not halt within the steps
  have reached : m.Soon steps (fun step => ∀ r, m.Evaluates step r → r = answer)
      (.next (.initial m.program start)) := by
    have bounded : some steps = none → t.isProper = true := nofun
    refine goal_of_compiled compiled bounded few (pulls.soon steps) ?_
    intro _ r halted
    cases halted
    exact first
  exact reached halts r evaluates

end Pattern

end GraphemeRegex
