import GraphemeRegex.Proofs.Lowering.LoopState

/-! # Loop tests — the code of a loop that sets and reads its registers

* `Loop.goal_of_prologue`: in front of a loop, its registers begin anew.
* `Loop.goal_of_limit`, `Loop.goal_of_progress`: whether an optional pass is allowed.
* `Loop.goal_of_requirement`: whether a pass is required.
-/

namespace GraphemeRegex

namespace Loop

variable {l : Loop} {m : Machine} {F : Fragment} {mayBeEmpty : Bool} {c c' : Cursor}
  {required pass optional : Nat} {first last : Cursor} {s₀ s : State} {left count : Nat}
  {last? : Option Position} {steps? : Option Nat} {goal : Step → Prop} {T : CheckpointStack}
  {stop : Nat}

/-! ## Registers that begin anew -/

section Prologue

variable (pulls : m.Pulls steps? goal)

include pulls

/-- A counter that the loop has begins anew. -/
theorem goal_of_reset {o : Option CounterId} {v : Nat}
    (code : m.program.Segment s.ip (o.toList.map .reset) stop)
    (initial : ∀ id ∈ o, m.program.counters[id.index]? = some v)
    (later : goal (.next { s with
      ip := stop, counters := o.elim s.counters (s.counters.setIfInBounds ·.index v) })) :
    goal (.next s) := by
  rcases code with ⟨code, rfl⟩
  cases o with
  | none => exact later
  | some id =>
    refine pulls.of_code (i := .reset id) code.1 ?_
    rw [Machine.execute, Machine.resetCounter, initial id rfl]
    exact later

/-- A mark that the loop has is unset. -/
theorem goal_of_unmark {o : Option MarkId}
    (code : m.program.Segment s.ip (o.toList.map .unmark) stop)
    (known : ∀ id ∈ o, id.index < s.marks.size)
    (later : goal (.next { s with
      ip := stop, marks := o.elim s.marks (s.marks.setIfInBounds ·.index none) })) :
    goal (.next s) := by
  rcases code with ⟨code, rfl⟩
  cases o with
  | none => exact later
  | some id =>
    refine pulls.of_code (i := .unmark id) code.1 ?_
    rw [Machine.execute, State.setMark, if_pos (known id rfl)]
    exact later

/-- In front of a loop, its registers begin anew, and a possessive loop pushes a checkpoint. -/
theorem goal_of_prologue (site : l.Site m F mayBeEmpty c c' required pass optional first last)
    (entry : s.ip = c.ip) (sized : s.Sized m.program)
    (later : ∀ t : State, t.ip = required → t.pos = s.pos → l.Above s.stack t.stack →
      t.stack.fallBack = s.stack.fallBack →
      l.During m.program c c' s l.amount.low
        ((LoopRegisters.optionalPasses? l.amount).getD 0) none t → goal (.next t)) :
    goal (.next s) := by
  have code := site.code.prologue
  unfold prologue at code
  rcases Program.segment_append.1 code with ⟨_, code, placeholder⟩
  rcases Program.segment_append.1 code with ⟨_, code, unmark⟩
  rcases Program.segment_append.1 code with ⟨_, resetRequired, resetOptional⟩
  -- one register after the other, in the order in which they were made
  have entry' : s.ip = (LoopRegisters.after l.amount mayBeEmpty c).ip := entry
  have initialRequired (id : CounterId) (mem : id ∈ l.registers.required) :
      m.program.counters[id.index]? = some l.amount.low :=
    (site.own.required id mem).2.2
  have initialOptional (id : CounterId) (mem : id ∈ l.registers.optional) :
      m.program.counters[id.index]? = some ((LoopRegisters.optionalPasses? l.amount).getD 0) :=
    (site.own.optional id mem).2.2
  refine goal_of_reset pulls (entry' ▸ resetRequired) initialRequired ?_
  refine goal_of_reset pulls resetOptional initialOptional ?_
  refine goal_of_unmark pulls unmark ?_ ?_
  · intro id mem
    show id.index < s.marks.size
    rw [sized.marks]
    exact (site.own.progress id mem).2.2
  unfold ifPossessive at placeholder
  unfold Above at later
  cases greedy : l.greed with
  | possessive =>
    rw [greedy] at placeholder later
    refine pulls.of_code (i := .savePlaceholder) placeholder.1.1 ?_
    exact later _ placeholder.2.symm rfl ⟨_, rfl⟩ rfl (.of_reset site sized rfl rfl)
  | eager | reluctant =>
    rw [greedy] at placeholder later
    exact later _ placeholder.2.symm rfl rfl rfl (.of_reset site sized rfl rfl)

end Prologue

/-! ## Tests -/

section Tests

variable (site : l.Site m F mayBeEmpty c c' required pass optional first last)
  (pulls : m.Pulls steps? goal)

include pulls in
/-- The checkpoint that a possessive loop keeps of its own is dropped. -/
theorem goal_of_clear (code : m.program.Segment s.ip (l.ifPossessive .clear) stop)
    (above : l.Above T s.stack) (later : goal (.next { s with ip := stop, stack := T })) :
    goal (.next s) := by
  rcases code with ⟨code, rfl⟩
  cases greedy : l.greed with
  | possessive =>
    rw [ifPossessive, greedy] at code
    rw [Above, greedy] at above
    -- the checkpoint of its own lies on top
    rcases above with ⟨slot, below⟩
    refine pulls.of_code (i := .clear) code.1 ?_
    rw [Machine.execute, State.clear, below, CheckpointStack.pop?_push]
    rwa [ifPossessive, greedy] at later
  | eager | reluctant =>
    rw [Above, greedy] at above
    rw [ifPossessive, greedy, ← above] at later
    exact later

include pulls in
/-- A loop that remembers where its last pass began stops if the pass consumed nothing. -/
theorem goal_of_check {exit : Nat}
    (code : m.program.Segment s.ip (l.registers.progress.toList.map (.checkProgress exit)) stop)
    (during : l.During m.program c c' s₀ left count last? s)
    (reaches : ∀ p ∈ last?, p.Reaches s.pos)
    (stays : l.registers.progress.isSome → last? = some s.pos → goal (.next (s.jump exit)))
    (goes : (l.registers.progress.isSome → last? ≠ some s.pos) → goal (.next (s.jump stop))) :
    goal (.next s) := by
  rcases code with ⟨code, rfl⟩
  cases remember : l.registers.progress with
  | none =>
    rw [remember] at goes
    exact goes (by simp)
  | some id =>
    rw [remember] at code goes stays
    refine pulls.of_code (i := .checkProgress exit id) code.1 ?_
    rw [Machine.execute, State.checkProgress, during.progress id remember]
    -- the mark holds the offset of the last pass, which tells positions of one run apart
    by_cases still : last? = some s.pos
    · rw [still]
      simpa using stays rfl still
    · have moved : last?.map (·.offset) ≠ some s.pos.offset := by
        intro same
        rcases Option.map_eq_some_iff.1 same with ⟨p, mem, offset⟩
        exact still (mem.trans (congrArg some ((reaches p mem).offset_eq_iff.1 offset)))
      have step := goes fun _ => still
      simp only [moved, if_false]
      exact step

include site pulls

/-- A limit on the optional passes is counted down, or it is zero from the beginning. -/
theorem goal_of_allowance {exit : Nat} (code : m.program.Segment s.ip (l.allowance exit) stop)
    (during : l.During m.program c c' s₀ left count last? s)
    (limited : (LoopRegisters.optionalPasses? l.amount).isSome)
    (fits : l.registers.optional = none → count = 0)
    (stops : count = 0 → goal (.next (s.jump exit)))
    (goes : ∀ (n : Nat) (t : State), count = n + 1 → t.ip = stop → t.pos = s.pos →
      t.stack = s.stack → l.During m.program c c' s₀ left n last? t → goal (.next t)) :
    goal (.next s) := by
  rcases code with ⟨code, rfl⟩
  cases counter : l.registers.optional with
  | none =>
    -- a limit without a counter allows no optional pass at all
    have zero : LoopRegisters.optionalPasses? l.amount = some 0 := by
      rw [site.registers, LoopRegisters.numbered] at counter
      rcases limit : LoopRegisters.optionalPasses? l.amount with _ | _ | n <;> simp_all
    rw [allowance, counter, zero] at code
    exact pulls.of_code (i := .branch exit) code.1 (stops (fits counter))
  | some id =>
    rw [allowance, counter] at code goes
    refine pulls.of_code (i := .condBranch exit id) code.1 ?_
    rw [Machine.execute, State.countDown, during.optional id counter]
    cases count with
    | zero => exact stops rfl
    | succ n => exact goes n _ rfl rfl rfl rfl (during.set_optional site counter rfl rfl)

/-- With a limit on the optional passes, the loop stops when it is exhausted. -/
theorem goal_of_limit (limited : (LoopRegisters.optionalPasses? l.amount).isSome)
    (entry : s.ip = optional) (during : l.During m.program c c' s₀ left count last? s)
    (fits : l.registers.optional = none → count = 0) (above : l.Above T s.stack)
    (stops : ∀ t : State, count = 0 → t.ip = c'.ip → t.pos = s.pos → t.stack = T →
      l.During m.program c c' s₀ left count last? t → goal (.next t))
    (goes : ∀ (n : Nat) (t : State), count = n + 1 →
      m.program.Segment t.ip [l.choice pass c'.ip] c'.ip → t.pos = s.pos → t.stack = T →
      l.During m.program c c' s₀ left n last? t → goal (.next t)) : goal (.next s) := by
  rcases Program.segment_append.1 site.code.policy with ⟨choose, policy, choice⟩
  rcases Program.segment_append.1 policy with ⟨allow, policy, allowance⟩
  rcases Program.segment_append.1 policy with ⟨check, clear, checks⟩
  -- only a loop without a limit remembers its passes
  have forgets : l.registers.progress = none := by
    rcases Option.isSome_iff_exists.1 limited with ⟨n, limit⟩
    rcases Option.map_eq_some_iff.1 limit with ⟨high, bounded, _⟩
    simp [site.registers, LoopRegisters.numbered, LoopRegisters.remembers, bounded]
  have unchecked : allow = check := by
    have stop := checks.2
    rwa [forgets] at stop
  rw [unchecked] at allowance
  refine goal_of_clear pulls (entry ▸ clear) above ?_
  refine goal_of_allowance site pulls (s := { s with ip := check, stack := T }) allowance
    (during.of_same rfl rfl) limited fits ?_ ?_
  · intro none
    exact stops _ none rfl rfl rfl (during.of_same rfl rfl)
  · intro n t some ip pos stack later
    exact goes n t some (ip ▸ choice) pos stack later

/-- Without a limit on the optional passes, the loop stops behind a pass that consumed nothing. -/
theorem goal_of_progress (unlimited : LoopRegisters.optionalPasses? l.amount = none)
    (entry : s.ip = optional) (during : l.During m.program c c' s₀ left count last? s)
    (reaches : ∀ p ∈ last?, p.Reaches s.pos) (above : l.Above T s.stack)
    (stops : ∀ t : State, l.registers.progress.isSome → last? = some s.pos → t.ip = c'.ip →
      t.pos = s.pos → t.stack = T → l.During m.program c c' s₀ left count last? t →
      goal (.next t))
    (goes : ∀ t : State, (l.registers.progress.isSome → last? ≠ some s.pos) →
      m.program.Segment t.ip [l.choice pass c'.ip] c'.ip → t.pos = s.pos → t.stack = T →
      l.During m.program c c' s₀ left count last? t → goal (.next t)) : goal (.next s) := by
  rcases Program.segment_append.1 site.code.policy with ⟨choose, policy, choice⟩
  rcases Program.segment_append.1 policy with ⟨allow, policy, allowance⟩
  rcases Program.segment_append.1 policy with ⟨check, clear, checks⟩
  -- optional passes are only counted up to a limit
  have uncounted : l.registers.optional = none := by
    simp [site.registers, LoopRegisters.numbered, unlimited]
  have uncounted' : choose = allow := by
    have stop := allowance.2
    rwa [Loop.allowance, uncounted, unlimited] at stop
  rw [uncounted'] at choice
  refine goal_of_clear pulls (entry ▸ clear) above ?_
  refine goal_of_check pulls (s := { s with ip := check, stack := T }) checks
    (during.of_same rfl rfl) reaches ?_ ?_
  · intro some still
    exact stops _ some still rfl rfl rfl (during.of_same rfl rfl)
  · intro moved
    exact goes _ moved choice rfl rfl (during.of_same rfl rfl)

/-- The required passes are counted down if there are several. -/
theorem goal_of_requirement (many : 1 < l.amount.low) (entry : s.ip = required)
    (during : l.During m.program c c' s₀ left count last? s)
    (stops : left = 0 → goal (.next (s.jump optional)))
    (goes : ∀ (n : Nat) (t : State), left = n + 1 → t.ip = pass → t.pos = s.pos →
      t.stack = s.stack → l.During m.program c c' s₀ n count last? t → goal (.next t)) :
    goal (.next s) := by
  rcases site.code.requirement with ⟨code, stop⟩
  obtain ⟨id, counter⟩ : ∃ id, l.registers.required = some id := by
    rw [site.registers, LoopRegisters.numbered]
    exact ⟨_, if_pos many⟩
  rw [requirement, counter] at code stop
  have here : m.program.code[s.ip]? = some (.condBranch optional id) := by
    rw [entry]
    exact code.1
  refine pulls.of_code here ?_
  rw [Machine.execute, State.countDown, during.required id counter]
  -- no pass left, or one fewer
  cases left with
  | zero => exact stops rfl
  | succ n =>
    exact goes n _ rfl ((congrArg (· + 1) entry).trans stop.symm) rfl rfl
      (during.set_required site counter rfl rfl)

/-- When no pass is required any more, a pass leads on to the optional ones. -/
theorem goal_of_back (entry : s.ip = if 1 < l.amount.low then required else optional)
    (during : l.During m.program c c' s₀ 0 count last? s)
    (later : goal (.next (s.jump optional))) : goal (.next s) := by
  by_cases many : 1 < l.amount.low
  · rw [if_pos many] at entry
    refine goal_of_requirement site pulls many entry during ?_ ?_
    · intro _
      exact later
    · intro n _ none
      exact absurd none (Nat.succ_ne_zero n).symm
  · rw [if_neg many] at entry
    rwa [State.jump, ← entry] at later

end Tests

end Loop

end GraphemeRegex
