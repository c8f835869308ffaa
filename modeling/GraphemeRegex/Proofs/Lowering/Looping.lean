import GraphemeRegex.Proofs.Lowering.LoopPasses

/-! # Looping — the code of a loop visits the ends of the loop

A loop first makes its required passes. Then it makes optional ones, counting them if there is a
limit; without one, it stops behind a pass that has consumed nothing. A loop that does not watch for
such passes may go on for ever, but each pass takes it at least one step.

* `Loop.goal_at_optional_of_limited`, `Loop.goal_at_optional_of_unlimited`: the optional passes.
* `Loop.goal_at_optional_of_endless`: optional passes that may go on for ever.
* `Loop.goal_at_required`: the required passes and what follows them.
* `Machine.computes_repeated`: the whole loop.
-/

namespace GraphemeRegex

namespace Loop

variable {l : Loop} {m : Machine} {F : Fragment} {M : Matcher} {mayBeEmpty : Bool} {c c' : Cursor}
  {required pass optional : Nat} {first last : Cursor} {s₀ s : State} {left count : Nat}
  {last? : Option Position} {steps? : Option Nat} {goal : Step → Prop} {d : Demand}
  {T : CheckpointStack} {stop : Nat}

/-! ## Between two passes -/

/-- If there was a pass, then it ended here. -/
def Passed (M : Matcher) (last? : Option Position) (p : Position) : Prop :=
  ∀ q ∈ last?, p ∈ M q

theorem passed_none (M : Matcher) (p : Position) : Passed M none p :=
  fun _ mem => absurd mem (Option.not_mem_none _)

theorem passed_of_mem {p q : Position} (mem : q ∈ M p) : Passed M (some p) q := by
  intro p' found
  obtain rfl : p = p' := Option.some.inj found
  exact mem

/-- The last pass ended in front of where the run stands, or just there. -/
theorem Passed.reaches {p : Position} (passed : Passed M last? p) (advances : M.Advances) :
    ∀ q ∈ last?, q.Reaches p :=
  fun q mem => advances q p (passed q mem)

/-- Only a loop that remembers its passes gets stuck. -/
theorem Site.checked_of_stuck {p : Position}
    (site : l.Site m F mayBeEmpty c c' required pass optional first last)
    (unlimited : LoopRegisters.optionalPasses? l.amount = none) (passed : Passed M last? p)
    (advances : M.Advances) (consumes : mayBeEmpty = false → M.Consumes)
    (stuck : last?.any (·.rest.length ≤ p.rest.length) = true) :
    l.registers.progress.isSome ∧ last? = some p := by
  rcases (Option.any_eq_true _ _).1 stuck with ⟨q, found, behind⟩
  have behind : q.rest.length ≤ p.rest.length := of_decide_eq_true behind
  -- the position did not move back, and a body that may not be empty would have moved it on
  have ahead := passed.reaches advances q found
  have same : p = q := by
    by_cases same : p = q
    · exact same
    · exact absurd (ahead.length_lt_iff.2 same) (Nat.not_lt.2 behind)
  refine ⟨?_, same ▸ found⟩
  cases mayBeEmpty with
  | false => exact absurd (consumes rfl q p (passed q found)) (Nat.not_lt.2 behind)
  | true => exact site.remembers_of_unlimited unlimited

/-! ## Passes -/

section Phases

variable (site : l.Site m F mayBeEmpty c c' required pass optional first last)
  (pulls : m.Pulls steps? goal) (meets : m.Meets c c' s₀ goal d) (body : m.Computes steps? F M)

include site pulls meets body

/-- The optional passes, if there is a limit for them. -/
theorem goal_at_optional_of_limited
    (limited : (LoopRegisters.optionalPasses? l.amount).isSome) {rest : Prop}
    (entry : s.ip = optional) (during : l.During m.program c c' s₀ 0 count last? s)
    (fits : l.registers.optional = none → count = 0) (above : l.Above T s.stack)
    (stack : s₀.stack.Leaves c.ip c'.ip T) (back : rest → goal T.fallBack)
    (ends : d.along (Matcher.upTo l.greed (fun p => l.greed.commit (M p)) count s.pos) rest) :
    goal (.next s) := by
  -- each pass that is made leaves one fewer
  induction count generalizing goal s T rest last? with
  | zero =>
    refine goal_of_limit site pulls limited entry during fits above ?_ ?_
    · rintro t _ exit pos rfl during'
      rw [← pos] at ends
      exact goal_of_exit pulls meets exit during' stack back ends
    · intro n _ some
      exact absurd some (Nat.succ_ne_zero n).symm
  | succ n ih =>
    refine goal_of_limit site pulls limited entry during fits above ?_ ?_
    · intro _ none
      exact absurd none (Nat.succ_ne_zero n)
    · intro k t same choice pos below during'
      obtain rfl : n = k := Nat.succ.inj same
      subst below
      rw [← pos] at ends
      refine pulls.pull t ?_
      refine goal_of_choice site pulls meets body choice during' stack back ?_ ?_ ends
      · intro easier eases t' T' rest' ip' during'' above' stack' back' _ ends'
        refine goal_of_back site (eases.pulls pulls) ip' during'' ?_
        refine ih (eases.pulls pulls) (meets.ease eases) (s := t'.jump optional) rfl
          (during''.of_same rfl rfl) ?_ above' stack' back' ends'
        intro none
        exact absurd (fits none) (Nat.succ_ne_zero n)
      · intro greedy q
        rw [greedy]
        exact Matcher.exists_upTo_possessive _ n q

/-- The optional passes, if there is no limit for them. A pass over a body that is not empty need
not be checked. -/
theorem goal_at_optional_of_unlimited
    (unlimited : LoopRegisters.optionalPasses? l.amount = none) (advances : M.Advances)
    (consumes : mayBeEmpty = false → M.Consumes) {rest : Prop} (entry : s.ip = optional)
    (during : l.During m.program c c' s₀ 0 count last? s) (passed : Passed M last? s.pos)
    (above : l.Above T s.stack) (stack : s₀.stack.Leaves c.ip c'.ip T)
    (back : rest → goal T.fallBack)
    (ends : d.along
      (Matcher.unlimited l.greed (fun p => l.greed.commit (M p)) last? s.pos) rest) :
    goal (.next s) := by
  generalize here : s.pos = p at ends
  -- along the recursion of the matcher, in which each pass leaves less of the text
  induction last?, p using Matcher.unlimited.induct generalizing goal s T rest with
  | case1 last? p stuck =>
    rw [Matcher.unlimited, if_pos stuck] at ends
    subst here
    refine goal_of_progress site pulls unlimited entry during (passed.reaches advances) above ?_ ?_
    · intro t _ _ exit pos below during'
      subst below
      exact goal_of_exit pulls meets exit during' stack back (pos ▸ ends)
    · intro t moved
      have checked := site.checked_of_stuck unlimited passed advances consumes stuck
      exact absurd checked.2 (moved checked.1)
  | case2 last? p moved ih =>
    rw [Matcher.unlimited, if_neg moved] at ends
    subst here
    refine goal_of_progress site pulls unlimited entry during (passed.reaches advances) above ?_ ?_
    · intro t _ still
      refine absurd ?_ moved
      simp [still]
    · intro t _ choice pos below during'
      subst below
      rw [← pos] at ends ih
      refine pulls.pull t ?_
      refine goal_of_choice site pulls meets body choice during' stack back ?_ ?_ ends
      · intro easier eases t' T' rest' ip' during'' above' stack' back' mem ends'
        refine goal_of_back site (eases.pulls pulls) ip' during'' ?_
        exact ih t'.pos (eases.pulls pulls) (meets.ease eases) (s := t'.jump optional) rfl
          (during''.of_same rfl rfl) (passed_of_mem mem) above' stack' back' rfl ends'
      · intro greedy q
        rw [greedy]
        exact Matcher.exists_unlimited_possessive _ _ q

omit pulls body in
/-- The optional passes, if there is no limit for them and they are not watched. The choice of a
pass is a step, so there are no more passes than steps until the goal is given up. -/
theorem goal_at_optional_of_endless {steps : Nat} (pulls : m.Pulls (some steps) goal)
    (body : m.Computes (some steps) F M)
    (unlimited : LoopRegisters.optionalPasses? l.amount = none) (filled : mayBeEmpty = false)
    (advances : M.Advances) {rest : Prop} (entry : s.ip = optional)
    (during : l.During m.program c c' s₀ 0 count last? s) (passed : Passed M last? s.pos)
    (above : l.Above T s.stack) (stack : s₀.stack.Leaves c.ip c'.ip T)
    (back : rest → goal T.fallBack)
    (ends : d.along (Matcher.upTo l.greed (fun p => l.greed.commit (M p)) steps s.pos) rest) :
    goal (.next s) := by
  have forgets : ¬ l.registers.progress.isSome := by
    simp [site.registers, LoopRegisters.numbered, LoopRegisters.remembers, filled]
  induction steps generalizing goal s T rest last? with
  | zero => exact pulls.lapse 0 rfl s id
  | succ k ih =>
    refine goal_of_progress site pulls unlimited entry during (passed.reaches advances) above ?_ ?_
    · intro t remembers
      exact absurd remembers forgets
    · intro t _ choice pos below during'
      subst below
      rw [← pos] at ends
      -- behind the choice, the goal is to be reached in one step less
      have soon := pulls.soon_eases k
      refine pulls.of_soon (goal_of_choice site (pulls.soon k) (meets.ease soon)
        (body.fewer (Nat.le_succ k)) choice during' stack (fun h => soon.imp (back h)) ?_ ?_ ends)
      · intro easier eases t' T' rest' ip' during'' above' stack' back' mem ends'
        have pulls' := eases.pulls (pulls.soon k)
        refine goal_of_back site pulls' ip' during'' ?_
        exact ih (meets.ease (soon.trans eases)) pulls' (body.fewer (Nat.le_succ k))
          (s := t'.jump optional) rfl (during''.of_same rfl rfl) (passed_of_mem mem) above' stack'
          back' ends'
      · intro greedy q
        rw [greedy]
        exact Matcher.exists_upTo_possessive _ k q

/-- The optional passes, behind the required ones. -/
theorem goal_at_optional (advances : M.Advances)
    (consumes : steps? = none → mayBeEmpty = false → M.Consumes)
    {rest : Prop} (entry : s.ip = optional)
    (during : l.During m.program c c' s₀ 0
      ((LoopRegisters.optionalPasses? l.amount).getD 0) last? s)
    (passed : Passed M last? s.pos)
    (above : l.Above T s.stack) (stack : s₀.stack.Leaves c.ip c'.ip T)
    (back : rest → goal T.fallBack)
    (ends : d.along (Matcher.optionalWithin steps? mayBeEmpty l.amount l.greed
      (fun p => l.greed.commit (M p)) last? s.pos) rest) :
    goal (.next s) := by
  unfold Matcher.optionalWithin Matcher.optional at ends
  cases bound : l.amount.high? with
  | none =>
    have unlimited : LoopRegisters.optionalPasses? l.amount = none := by
      rw [LoopRegisters.optionalPasses?, bound, Option.map_none]
    rw [unlimited] at during
    rw [bound, Option.isNone_none, Bool.true_and] at ends
    by_cases endless : mayBeEmpty = false ∧ steps?.isSome
    · obtain ⟨filled, given⟩ := endless
      obtain ⟨steps, rfl⟩ := Option.isSome_iff_exists.1 given
      rw [filled] at ends
      exact goal_at_optional_of_endless site meets pulls body unlimited filled advances entry
        during passed above stack back ends
    · have watched : (if !mayBeEmpty then steps? else none) = none := by
        cases mayBeEmpty <;> simp_all
      rw [watched] at ends
      refine goal_at_optional_of_unlimited site pulls meets body unlimited advances ?_ entry during
        passed above stack back ends
      intro filled
      cases steps? with
      | none => exact consumes rfl filled
      | some steps => exact absurd ⟨filled, rfl⟩ endless
  | some high =>
    rw [bound] at ends
    have limit : LoopRegisters.optionalPasses? l.amount = some (high - l.amount.low) := by
      rw [LoopRegisters.optionalPasses?, bound, Option.map_some]
    rw [limit, Option.getD_some] at during
    refine goal_at_optional_of_limited site pulls meets body (by rw [limit]; rfl) entry during ?_
      above stack back ends
    -- a limit that is not counted is zero
    intro uncounted
    rw [site.registers, LoopRegisters.numbered, limit] at uncounted
    generalize high - l.amount.low = passes at uncounted
    cases passes with
    | zero => rfl
    | succ passes => exact absurd uncounted (Option.some_ne_none _)

omit meets in
/-- A pass that is required leads on to the passes that are required behind it. -/
theorem goal_of_required_pass {after : Option Position → Matcher} {n : Nat} {rest : Prop}
    (entry : s.ip = pass) (during : l.During m.program c c' s₀ n count last? s)
    (above : l.Above T s.stack) (stack : s₀.stack.Leaves c.ip c'.ip T)
    (same : s.stack.fallBack = T.fallBack) (back : rest → goal T.fallBack)
    (later : ∀ easier, m.Eases goal easier → ∀ (t : State) (T' : CheckpointStack) (rest' : Prop),
      t.ip = (if 1 < l.amount.low then required else optional) →
      l.During m.program c c' s₀ n count (some s.pos) t → l.Above T' t.stack →
      s₀.stack.Leaves c.ip c'.ip T' → t.stack.fallBack = T'.fallBack →
      (rest' → easier T'.fallBack) → t.pos ∈ M s.pos →
      d.along (Matcher.required (fun p => l.greed.commit (M p)) after n (some s.pos) t.pos) rest' →
      easier (.next t))
    (ends : d.along
      (Matcher.required (fun p => l.greed.commit (M p)) after (n + 1) last? s.pos) rest) :
    goal (.next s) := by
  rw [Matcher.required, Demand.along_flatMap] at ends
  refine goal_of_pass site pulls body entry during above stack (same ▸ back) back ?_
    (Demand.along_committed ends)
  intro easier eases t T' rest' ip' during' above' stack' same' back' mem ends'
  exact later easier eases t T' rest' ip' during' above' stack' (same' same) back' mem ends'

/-- The required passes, if they are counted, and what follows them. -/
theorem goal_at_required (many : 1 < l.amount.low) (advances : M.Advances)
    (consumes : steps? = none → mayBeEmpty = false → M.Consumes) {rest : Prop}
    (entry : s.ip = required)
    (during : l.During m.program c c' s₀ left
      ((LoopRegisters.optionalPasses? l.amount).getD 0) last? s)
    (passed : Passed M last? s.pos)
    (above : l.Above T s.stack) (stack : s₀.stack.Leaves c.ip c'.ip T)
    (same : s.stack.fallBack = T.fallBack) (back : rest → goal T.fallBack)
    (ends : d.along (Matcher.required (fun p => l.greed.commit (M p))
      (Matcher.optionalWithin steps? mayBeEmpty l.amount l.greed fun p => l.greed.commit (M p))
      left last? s.pos) rest) :
    goal (.next s) := by
  -- each pass that is made leaves one fewer to make
  induction left generalizing goal s T rest last? with
  | zero =>
    refine goal_of_requirement site pulls many entry during ?_ ?_
    · intro _
      exact goal_at_optional site pulls meets body advances consumes (s := s.jump optional) rfl
        (during.of_same rfl rfl) passed above stack back ends
    · intro n _ none
      exact absurd none (Nat.succ_ne_zero n).symm
  | succ n ih =>
    refine goal_of_requirement site pulls many entry during ?_ ?_
    · intro none
      exact absurd none (Nat.succ_ne_zero n)
    · intro k t successor atPass pos fixed during'
      obtain rfl : n = k := Nat.succ.inj successor
      rw [← fixed] at above same
      rw [← pos] at ends
      refine goal_of_required_pass site pulls body atPass during' above stack same back ?_ ends
      intro easier eases t' T' rest' ip' during'' above' stack' same' back' mem ends'
      rw [if_pos many] at ip'
      exact ih (eases.pulls pulls) (meets.ease eases) ip' during'' (passed_of_mem mem) above' stack'
        same' back' ends'

/-- The whole loop, behind its prologue. -/
theorem goal_at_start (advances : M.Advances)
    (consumes : steps? = none → mayBeEmpty = false → M.Consumes) {rest : Prop}
    (entry : s.ip = required)
    (during : l.During m.program c c' s₀ l.amount.low
      ((LoopRegisters.optionalPasses? l.amount).getD 0) none s)
    (above : l.Above T s.stack) (stack : s₀.stack.Leaves c.ip c'.ip T)
    (same : s.stack.fallBack = T.fallBack) (back : rest → goal T.fallBack)
    (ends : d.along (Matcher.repeatedWithin steps? mayBeEmpty l.amount l.greed M s.pos) rest) :
    goal (.next s) := by
  have nowhere := passed_none M s.pos
  by_cases many : 1 < l.amount.low
  · exact goal_at_required site pulls meets body many advances consumes entry during nowhere above
      stack same back ends
  -- one required pass is made without a counter, and none is skipped
  have uncounted : l.registers.required = none := by
    rw [site.registers, LoopRegisters.numbered, if_neg many]
  rcases site.code.requirement with ⟨code, pass_eq⟩
  have during' : l.During m.program c c' s₀ 0
      ((LoopRegisters.optionalPasses? l.amount).getD 0) none s :=
    { during with required := by simp [uncounted] }
  unfold Matcher.repeatedWithin at ends
  rw [requirement, uncounted] at code pass_eq
  -- no required pass, or one; more of them would be counted
  rcases low : l.amount.low with _ | _ | n
  · rw [low] at code ends
    have here : m.program.code[s.ip]? = some (.branch optional) := by
      rw [entry]
      exact code.1
    refine pulls.of_code here ?_
    exact goal_at_optional site pulls meets body advances consumes (s := s.jump optional) rfl
      (during'.of_same rfl rfl) nowhere above stack back ends
  · rw [low] at pass_eq ends
    refine goal_of_required_pass site pulls body (entry.trans pass_eq.symm) during' above stack
      same back ?_ ends
    intro easier eases t T' rest' ip' during'' above' stack' _ back' mem ends'
    rw [if_neg many] at ip'
    exact goal_at_optional site (eases.pulls pulls) (meets.ease eases) body advances consumes ip'
      during'' (passed_of_mem mem) above' stack' back' ends'
  · omega

end Phases

end Loop

/-- The code of a loop visits the ends of the loop, as far as the steps go. -/
theorem Machine.computes_repeated {m : Machine} {steps? : Option Nat} {F : Fragment} {M : Matcher}
    (amount : Amount) (greed : Greed) (mayBeEmpty : Bool) (body : m.Computes steps? F M)
    (forward : F.Forward) (advances : M.Advances)
    (consumes : steps? = none → mayBeEmpty = false → M.Consumes) (few : m.program.FewRegisters) :
    m.Computes steps? (.repeated amount greed mayBeEmpty F)
      (.repeatedWithin steps? mayBeEmpty amount greed M) := by
  rintro c c' ⟨held, required, pass, optional, first, last, code⟩ goal pulls d s rest entry sized
    back meets ends
  -- the only place that needs register numbers not to start again from zero
  have own := LoopRegisters.numbered_own held few
  have site : Loop.Site ⟨amount, greed, _⟩ m F mayBeEmpty c c' required pass optional first last :=
    ⟨rfl, own, code, forward _ _ _ code.body⟩
  refine Loop.goal_of_prologue pulls site entry sized ?_
  intro t ip pos above same during
  rw [← pos] at ends
  exact Loop.goal_at_start site pulls meets body advances consumes ip during above (.refl _ _ _)
    same back ends

end GraphemeRegex
