import GraphemeRegex.Proofs.Lowering.LoopTests

/-! # Loop passes — one pass of a loop and the choice of another

* `Loop.goal_of_pass`: one pass of a loop visits the ends of its body.
* `Loop.goal_of_choice`: where a loop can go on or stop, it visits the ends in the order that its
  greed prefers.
-/

namespace GraphemeRegex

namespace Loop

variable {l : Loop} {m : Machine} {F : Fragment} {M : Matcher} {mayBeEmpty : Bool} {c c' : Cursor}
  {required pass optional : Nat} {first last : Cursor} {s₀ s : State} {left count : Nat}
  {last? : Option Position} {steps? : Option Nat} {goal : Step → Prop} {d : Demand}

/-- Behind a pass, the loop goes back to its requirement or on to the optional passes. -/
theorem goal_of_return (pulls : m.Pulls steps? goal) {ip : Nat} (entry : s.ip = ip)
    (code : m.program.Segment ip (if 1 < l.amount.low then [.branch required] else []) optional)
    (later : goal (.next (s.jump (if 1 < l.amount.low then required else optional)))) :
    goal (.next s) := by
  by_cases many : 1 < l.amount.low
  · rw [if_pos many] at code later
    have here : m.program.code[s.ip]? = some (.branch required) := by
      rw [entry]
      exact code.1.1
    exact pulls.of_code here later
  · rw [if_neg many] at code later
    have same : s.jump optional = s := by
      rw [code.2, ← entry]
      rfl
    rwa [same] at later

section Passes

variable (site : l.Site m F mayBeEmpty c c' required pass optional first last)
  (pulls : m.Pulls steps? goal)

include site pulls

/-- In front of a pass, its position is remembered. -/
theorem goal_of_marks {stop : Nat}
    (code : m.program.Segment pass (l.registers.progress.toList.map .mark) stop)
    (entry : s.ip = pass) (during : l.During m.program c c' s₀ left count last? s)
    (later : ∀ t : State, t.ip = stop → t.pos = s.pos → t.stack = s.stack →
      l.During m.program c c' s₀ left count (some s.pos) t → goal (.next t)) :
    goal (.next s) := by
  rcases code with ⟨code, rfl⟩
  cases remember : l.registers.progress with
  -- without a mark there is nothing to remember, and no instruction
  | none =>
    rw [remember] at later
    refine later s entry rfl rfl { during with progress := ?_ }
    simp [remember]
  | some id =>
    rw [remember] at code later
    rcases site.own.progress id remember with ⟨_, _, known⟩
    have here : m.program.code[s.ip]? = some (.mark id) := by
      rw [entry]
      exact code.1
    refine pulls.of_code here ?_
    have inside : id.index < s.marks.size := by
      rw [during.sized.marks]
      exact known
    rw [Machine.execute, State.setMark, if_pos inside]
    exact later _ (congrArg (· + 1) entry) rfl rfl
      (during.set_progress site remember (some s.pos) rfl rfl)

/-- One pass visits the ends of the body; a possessive loop keeps the first of them only. -/
theorem goal_of_pass (body : m.Computes steps? F M) {T : CheckpointStack} {fail rest : Prop}
    (entry : s.ip = pass) (during : l.During m.program c c' s₀ left count last? s)
    (above : l.Above T s.stack) (stack : s₀.stack.Leaves c.ip c'.ip T)
    (back : fail → goal s.stack.fallBack) (base : rest → goal T.fallBack)
    (later : ∀ easier, m.Eases goal easier → ∀ (t : State) (T' : CheckpointStack) (rest' : Prop),
      t.ip = (if 1 < l.amount.low then required else optional) →
      l.During m.program c c' s₀ left count (some s.pos) t → l.Above T' t.stack →
      s₀.stack.Leaves c.ip c'.ip T' →
      (s.stack.fallBack = T.fallBack → t.stack.fallBack = T'.fallBack) →
      (rest' → easier T'.fallBack) → t.pos ∈ M s.pos → d.holds t.pos rest' → easier (.next t))
    (ends : (d.committed l.greed rest).along (M s.pos) fail) : goal (.next s) := by
  rcases Program.segment_append.1 site.code.passHead with ⟨behind, marks, head⟩
  rcases Program.segment_append.1 site.code.passTail with ⟨_, tail, jump⟩
  have known := Demand.along_among ends
  refine goal_of_marks site pulls marks entry during ?_
  intro s₁ entry₁ pos₁ stack₁ during₁
  rw [← stack₁] at back above
  cases greedy : l.greed with
  | possessive =>
    -- the cut leaves the stack as it was in front of the pass, with the loop's own checkpoint
    rw [ifPossessive, greedy] at head tail
    have first_ip : first.ip = behind + 1 := head.2
    have first_eq : first = (⟨behind, first.counters, first.marks⟩ : Cursor).advance 1 := by
      rw [Cursor.advance, ← first_ip]
    rw [greedy, ← pos₁] at known
    refine Machine.goal_of_fence pulls body head.1.1 (first_eq ▸ site.code.body) tail.1.1 entry₁
      during₁.sized back ?_ known
    intro easier eases t q _ ip sized spares stack' pos holds
    rw [← first_eq] at spares
    refine goal_of_return (eases.pulls pulls) (ip.trans tail.2.symm) jump ?_
    have fixed : t.stack = s.stack := stack'.trans stack₁
    rw [if_neg (by decide)] at pos
    refine later easier eases _ T rest rfl ((during₁.body site sized spares).of_same rfl rfl) ?_
      stack ?_ (fun holds => eases.imp (base holds)) ?_ ?_
    · rw [stack₁] at above
      exact fixed ▸ above
    · rintro same
      exact (congrArg _ fixed).trans same
    · rw [← pos₁]
      exact pos ▸ holds.1
    · exact pos ▸ holds.2
  | eager | reluctant =>
    -- what the body leaves on the stack stays there, below the next pass
    rw [ifPossessive, greedy] at head tail
    rw [Above, greedy] at above
    rw [greedy, ← pos₁] at known
    refine body _ _ site.code.body goal pulls _ s₁ fail (entry₁.trans head.2.symm) during₁.sized
      back ?_ known
    intro easier eases t rest' exits spares back' holds
    refine goal_of_return (eases.pulls pulls) (exits.ip.trans tail.2.symm) jump ?_
    refine later easier eases _ t.stack rest' rfl
      ((during₁.body site exits.sized spares).of_same rfl rfl) ?_ ?_ (fun _ => rfl) back'
      (pos₁ ▸ holds.1) holds.2
    · rw [Above, greedy]
      rfl
    · rcases site.order with ⟨_, _, _, _, _, _⟩
      rw [← above] at stack
      exact stack.trans (exits.stack.mono (by omega) (by omega))

end Passes

/-! ## Choices -/

section Choices

variable (site : l.Site m F mayBeEmpty c c' required pass optional first last)
  (pulls : m.Pulls steps? goal) (meets : m.Meets c c' s₀ goal d)

include pulls meets in
theorem goal_of_exit {rest : Prop} (exit : s.ip = c'.ip)
    (during : l.During m.program c c' s₀ left count last? s)
    (stack : s₀.stack.Leaves c.ip c'.ip s.stack) (back : rest → goal s.stack.fallBack)
    (ends : d.holds s.pos rest) : goal (.next s) :=
  meets goal pulls.eases s rest ⟨exit, during.sized, stack⟩ during.spares back ends

include site pulls meets

/-- Where a loop can go on or stop, it does so in the order that its greed prefers. The choice
itself is one step. -/
theorem goal_of_choice (body : m.Computes steps? F M) {N : Matcher} {rest : Prop}
    (code : m.program.Segment s.ip [l.choice pass c'.ip] c'.ip)
    (during : l.During m.program c c' s₀ left count last? s)
    (stack : s₀.stack.Leaves c.ip c'.ip s.stack) (back : rest → goal s.stack.fallBack)
    (later : ∀ easier, m.Eases goal easier → ∀ (t : State) (T' : CheckpointStack) (rest' : Prop),
      t.ip = (if 1 < l.amount.low then required else optional) →
      l.During m.program c c' s₀ left count (some s.pos) t → l.Above T' t.stack →
      s₀.stack.Leaves c.ip c'.ip T' → (rest' → easier T'.fallBack) → t.pos ∈ M s.pos →
      d.along (N t.pos) rest' → easier (.next t))
    (single : l.greed = .possessive → ∀ q, ∃ r, N q = [r])
    (ends : d.along (l.greed.prefer ((l.greed.commit (M s.pos)).flatMap N) [s.pos]) rest) :
    goal (m.step s) := by
  rcases site.order with ⟨_, _, _, _, _, _⟩
  have exit : c'.ip = s.ip + 1 := code.2
  have resumes : d.holds s.pos rest → goal (s.push (s.resumeAt c'.ip)).stack.fallBack := by
    intro holds
    exact goal_of_exit pulls meets (s := { s with ip := c'.ip }) rfl (during.of_same rfl rfl) stack
      back holds
  have saved : s₀.stack.Leaves c.ip c'.ip (s.push (s.resumeAt c'.ip)).stack :=
    stack.push (by show c.ip ≤ c'.ip; omega) (Nat.le_refl _)
  cases greedy : l.greed with
  | eager =>
    -- one more pass first; falling back from it leaves the loop
    rw [choice, greedy] at code
    rw [greedy, Greed.prefer, Demand.along_append] at ends
    rw [Machine.step_of_code (i := .split pass c'.ip) code.1.1]
    have above : l.Above (s.push (s.resumeAt c'.ip)).stack (s.push (s.resumeAt c'.ip)).stack := by
      rw [Above, greedy]
    refine goal_of_pass site pulls body (s := (s.push (s.resumeAt c'.ip)).jump pass) rfl
      (during.of_same rfl rfl) above saved resumes resumes (d := d.through N) ?_ ?_
    · intro easier eases t T' rest' ip' during' above' leaves _ back' mem holds
      exact later easier eases t T' rest' ip' during' above' leaves back' mem holds
    · rw [greedy]
      exact Demand.along_flatMap ▸ ends
  | possessive =>
    -- the pass may fall back to the exit only as long as it has not ended
    rw [choice, greedy] at code
    rw [greedy] at ends
    rw [Machine.step_of_code (i := .split pass c'.ip) code.1.1]
    have above : l.Above s.stack (s.push (s.resumeAt c'.ip)).stack := by
      rw [Above, greedy]
      exact ⟨_, rfl⟩
    refine goal_of_pass site pulls body (s := (s.push (s.resumeAt c'.ip)).jump pass) rfl
      (during.of_same rfl rfl) above stack resumes back (d := d.through N) ?_ ?_
    · intro easier eases t T' rest' ip' during' above' leaves _ back' mem holds
      exact later easier eases t T' rest' ip' during' above' leaves back' mem holds
    · rw [greedy]
      exact Demand.along_once_of_possessive (single greedy) ends
  | reluctant =>
    -- leaving the loop first; falling back makes one more pass
    rw [choice, greedy] at code
    rw [greedy] at ends
    rw [Machine.step_of_code (i := .save pass) code.1.1]
    refine goal_of_exit pulls meets (s := (s.push (s.resumeAt pass)).next)
      exit.symm (during.of_same rfl rfl)
      (stack.push (by show c.ip ≤ pass; omega) (by show pass ≤ c'.ip; omega)) ?_ ends
    intro more
    have above : l.Above s.stack s.stack := by
      rw [Above, greedy]
    refine goal_of_pass site pulls body (s := { s with ip := pass }) rfl (during.of_same rfl rfl)
      above stack back back (d := d.through N) ?_ ?_
    · intro easier eases t T' rest' ip' during' above' leaves _ back' mem holds
      exact later easier eases t T' rest' ip' during' above' leaves back' mem holds
    · rw [greedy]
      exact Demand.along_flatMap ▸ more

end Choices

end Loop

end GraphemeRegex
