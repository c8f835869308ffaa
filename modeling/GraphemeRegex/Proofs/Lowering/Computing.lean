import GraphemeRegex.Proofs.Lowering.Fragment
import GraphemeRegex.Proofs.Machine.Evaluation
import GraphemeRegex.Proofs.Machine.Stack
import GraphemeRegex.Proofs.Semantics.Matcher

/-! # Computing — code that visits the ends of a matcher

Code computes a matcher if it visits the ends of the matches from its position one after the other:
it goes on behind itself from the first of them, whoever falls back from there is led to the next
one, and whoever falls back from the last is led to where the code was entered from.

What is to be reached is left open. A demand says what has to hold at an end so that going on from
it reaches the goal, given what has to hold where it falls back to. Behind the code, a goal may be
replaced by one that is easier to reach, such as one that is given up after some more instructions.

* `Demand`: demands, and what they ask of a list of ends.
* `Machine.Pulls`, `Machine.Eases`: goals, and goals that are easier to reach.
* `Machine.Computes`: code computes a matcher.
* `Machine.computes_append`, `Machine.computes_atomic`, `Machine.computes_lookahead`,
  `Machine.computes_negated`, `Machine.computes_alternation_cons`: the combinations without loops.
-/

namespace GraphemeRegex

/-! ## Demands -/

/-- What has to hold at an end of a match, given what has to hold where it falls back to. -/
structure Demand where
  holds : Position → Prop → Prop
  mono : ∀ (q : Position) {rest rest' : Prop}, (rest → rest') → holds q rest → holds q rest'

namespace Demand

/-- The demand on ends that are visited one after the other. -/
def along (d : Demand) (ends : List Position) (rest : Prop) : Prop :=
  ends.foldr d.holds rest

variable {d : Demand} {rest rest' : Prop} {q : Position} {ends more : List Position}

@[simp] theorem along_nil : d.along [] rest = rest := rfl

@[simp] theorem along_cons : d.along (q :: ends) rest = d.holds q (d.along ends rest) := rfl

@[simp] theorem along_append : d.along (ends ++ more) rest = d.along ends (d.along more rest) :=
  List.foldr_append

/-- Whoever falls back from the last end has more to hope for. -/
theorem along_mono (imp : rest → rest') (h : d.along ends rest) : d.along ends rest' := by
  induction ends with
  | nil => exact imp h
  | cons q ends ih => exact d.mono q ih h

/-- The demand on the ends of one matcher from which another one goes on. -/
def through (d : Demand) (N : Matcher) : Demand where
  holds q rest := d.along (N q) rest
  mono _ _ _ imp h := along_mono imp h

/-- The ends of two matchers in a row are met if the ends of the first one are, each of them by the
ends of the second one from there. -/
theorem along_flatMap {N : Matcher} :
    d.along (ends.flatMap N) rest = (d.through N).along ends rest := by
  induction ends with
  | nil => rfl
  | cons q ends ih =>
    rw [List.flatMap_cons, along_append, ih]
    rfl

/-- The demand on ends of which only the first is visited. -/
def once (d : Demand) (rest : Prop) : Demand where
  holds q _ := d.holds q rest
  mono _ _ _ _ h := h

/-- Meeting the demand on the first end is enough; if there is none, the rest has to hold. -/
theorem along_once {fallBack : Prop} (h : d.along (ends.take 1) rest)
    (none : ends = [] → fallBack) : (d.once rest).along ends fallBack := by
  cases ends with
  | nil => exact none rfl
  | cons q ends => exact h

/-- The demand on the ends of one pass of a loop; a possessive one only visits the first. -/
def committed (d : Demand) (greed : Greed) (rest : Prop) : Demand :=
  match greed with
  | .possessive => d.once rest
  | .eager | .reluctant => d

/-- A loop that does not commit leaves the demand as it is. -/
theorem along_committed {greed : Greed} (h : d.along (greed.commit ends) rest) :
    (d.committed greed rest).along ends rest := by
  cases greed with
  | possessive => exact along_once h fun none => by rwa [none] at h
  | eager | reluctant => exact h

/-- A possessive loop either goes on with its first pass, or it stops. -/
theorem along_once_of_possessive {N : Matcher} {p : Position} (single : ∀ q, ∃ r, N q = [r])
    (h : d.along ((((ends.take 1).flatMap N) ++ [p]).take 1) rest) :
    ((d.through N).once rest).along ends (d.holds p rest) := by
  cases ends with
  | nil => exact h
  | cons q ends =>
    rcases single q with ⟨r, only⟩
    simp only [List.take_succ_cons, List.take_zero, List.flatMap_cons, List.flatMap_nil, only,
      List.append_nil, List.singleton_append] at h
    show d.along (N q) rest
    rw [only]
    exact h

/-- The demand that does not depend on the end. -/
def const (P : Prop) : Demand where
  holds _ _ := P
  mono _ _ _ _ h := h

/-- A demand that is the same everywhere only depends on whether there is an end at all. -/
theorem along_const {P : Prop} (none : ends = [] → rest) (some : ends ≠ [] → P) :
    (const P).along ends rest := by
  cases ends with
  | nil => exact none rfl
  | cons q ends => exact some (List.cons_ne_nil q ends)

/-- The demand together with the knowledge where the ends are from. -/
def among (d : Demand) (known : List Position) : Demand where
  holds q rest := q ∈ known ∧ d.holds q rest
  mono q _ _ imp h := ⟨h.1, d.mono q imp h.2⟩

/-- The ends of a list are known to be from any list that has them all. -/
theorem along_among_of_subset {known : List Position} (sub : ∀ q ∈ ends, q ∈ known)
    (h : d.along ends rest) : (d.among known).along ends rest := by
  induction ends with
  | nil => exact h
  | cons q ends ih =>
    -- the first end is a known one, and so are those that are tried later
    refine ⟨sub q (by simp), d.mono q ?_ h⟩
    intro later
    refine ih ?_ later
    intro q mem
    exact sub q (by simp [mem])

theorem along_among (h : d.along ends rest) : (d.among ends).along ends rest :=
  along_among_of_subset (fun _ mem => mem) h

end Demand

/-! ## Leaving code -/

namespace State

/-- The state `s'` is behind the code between two cursors, which was entered in `s`. -/
structure Exits (p : Program) (c c' : Cursor) (s s' : State) : Prop where
  ip : s'.ip = c'.ip
  sized : s'.Sized p
  stack : s.stack.Leaves c.ip c'.ip s'.stack

/-- The registers that do not belong to the code between two cursors are as before. -/
structure Spares (c c' : Cursor) (s s' : State) : Prop where
  counters : ∀ n, n < c.counters ∨ c'.counters ≤ n → s'.counters[n]? = s.counters[n]?
  marks : ∀ n, n < c.marks ∨ c'.marks ≤ n → s'.marks[n]? = s.marks[n]?

variable {p : Program} {a b c : Cursor} {s s' s'' : State}

theorem Spares.refl (a b : Cursor) (s : State) : s.Spares a b s := ⟨fun _ _ => rfl, fun _ _ => rfl⟩

theorem Spares.trans (h : s.Spares a b s') (h' : s'.Spares a b s'') : s.Spares a b s'' where
  counters n outside := (h'.counters n outside).trans (h.counters n outside)
  marks n outside := (h'.marks n outside).trans (h.marks n outside)

/-- Less code spares more registers. -/
theorem Spares.mono {a' b' : Cursor} (h : s.Spares a b s') (low : a'.Le a) (high : b.Le b') :
    s.Spares a' b' s' where
  counters n outside := h.counters n <|
    outside.imp (Nat.lt_of_lt_of_le · low.counters) (Nat.le_trans high.counters ·)
  marks n outside := h.marks n <|
    outside.imp (Nat.lt_of_lt_of_le · low.marks) (Nat.le_trans high.marks ·)

/-- Behind the first part and then behind the second one is behind both. -/
theorem Exits.trans (h : s.Exits p a b s') (h' : s'.Exits p b c s'') (low : a.Le b)
    (high : b.Le c) : s.Exits p a c s'' where
  ip := h'.ip
  sized := h'.sized
  stack := (h.stack.mono (Nat.le_refl _) high.ip).trans (h'.stack.mono low.ip (Nat.le_refl _))

end State

/-! ## Computing -/

namespace Machine

/-- A state that goes on to a step which reaches the goal reaches it, too. If a number of steps is
given, so does a state from where the run does not halt within that many. -/
structure Pulls (m : Machine) (steps? : Option Nat) (goal : Step → Prop) : Prop where
  pull : ∀ s, goal (m.step s) → goal (.next s)
  lapse : ∀ count ∈ steps?, ∀ s, ¬ m.HaltsIn count (.next s) → goal (.next s)

/-- A goal that is reached wherever the other one is. -/
structure Eases (m : Machine) (goal easier : Step → Prop) : Prop where
  pull : ∀ s, easier (m.step s) → easier (.next s)
  imp : ∀ {step : Step}, goal step → easier step

section Goals

variable {m : Machine} {steps? : Option Nat} {goal easier easiest : Step → Prop}

/-- A goal is reached if the instruction that comes next leads to it. -/
theorem Pulls.of_code (pulls : m.Pulls steps? goal) {s : State} {i : Instruction Nat}
    (found : m.program.code[s.ip]? = some i) (h : goal (m.execute s i)) : goal (.next s) :=
  pulls.pull s (by rwa [step_of_code found])

theorem Pulls.eases (pulls : m.Pulls steps? goal) : m.Eases goal goal := ⟨pulls.pull, id⟩

theorem Eases.trans (h : m.Eases goal easier) (h' : m.Eases easier easiest) :
    m.Eases goal easiest :=
  ⟨h'.pull, fun reached => h'.imp (h.imp reached)⟩

/-- An easier goal is pulled where the goal is. -/
theorem Eases.pulls (h : m.Eases goal easier) (pulls : m.Pulls steps? goal) :
    m.Pulls steps? easier :=
  ⟨h.pull, fun count mem s late => h.imp (pulls.lapse count mem s late)⟩

/-- The goal is to be reached if the run halts soon. -/
def Soon (m : Machine) (count : Nat) (goal : Step → Prop) (step : Step) : Prop :=
  m.HaltsIn count step → goal step

variable {count count' : Nat}

/-- More steps that may be made are no obstacle: a run that does not halt within them does not halt
within fewer. -/
theorem Pulls.more (pulls : m.Pulls (some count) goal) (le : count ≤ count') :
    m.Pulls (some count') goal := by
  refine ⟨pulls.pull, ?_⟩
  intro _ mem s late
  obtain rfl := Option.some.inj mem
  exact pulls.lapse count rfl s fun halts => late (halts.mono le)

/-- Being asked to reach a goal soon is being asked for less. -/
theorem Pulls.soon_eases (pulls : m.Pulls steps? goal) (count : Nat) :
    m.Eases goal (m.Soon count goal) := by
  refine ⟨?_, fun reached _ => reached⟩
  intro s reached halts
  refine pulls.pull s (reached ?_)
  -- one of the steps has been made
  cases count with
  | zero => exact absurd halts id
  | succ count => exact HaltsIn.succ halts

/-- A run that does not halt soon has reached every goal that is to be reached soon. -/
theorem Pulls.soon (pulls : m.Pulls steps? goal) (count : Nat) :
    m.Pulls (some count) (m.Soon count goal) := by
  refine ⟨(pulls.soon_eases count).pull, ?_⟩
  intro _ mem s late halts
  obtain rfl := Option.some.inj mem
  -- the lapse of `Soon` is its own premise
  exact absurd halts late

/-- A step that is made leaves one fewer. -/
theorem Pulls.of_soon (pulls : m.Pulls (some (count + 1)) goal) {s : State}
    (h : m.Soon count goal (m.step s)) : goal (.next s) := by
  by_cases halts : m.HaltsIn (count + 1) (.next s)
  · exact pulls.pull s (h halts)
  · exact pulls.lapse _ rfl s halts

end Goals

/-- Behind the code, whoever meets the demand reaches the goal, or an easier one if where it falls
back to does. -/
def Meets (m : Machine) (c c' : Cursor) (s : State) (goal : Step → Prop) (d : Demand) : Prop :=
  ∀ easier, m.Eases goal easier → ∀ (s' : State) (rest : Prop), s.Exits m.program c c' s' →
    s.Spares c c' s' → (rest → easier s'.stack.fallBack) → d.holds s'.pos rest → easier (.next s')

/-- The code visits the ends of the matcher. -/
def Computes (m : Machine) (steps? : Option Nat) (F : Fragment) (M : Matcher) : Prop :=
  ∀ (c c' : Cursor), F m.program c c' → ∀ (goal : Step → Prop), m.Pulls steps? goal →
    ∀ (d : Demand) (s : State) (rest : Prop), s.ip = c.ip → s.Sized m.program →
      (rest → goal s.stack.fallBack) → m.Meets c c' s goal d →
      d.along (M s.pos) rest → goal (.next s)

variable {m : Machine} {steps? : Option Nat} {F G : Fragment} {M N : Matcher}

/-- A demand that is met for a goal is met for each easier one. -/
theorem Meets.ease {c c' : Cursor} {s : State} {goal easier : Step → Prop} {d : Demand}
    (meets : m.Meets c c' s goal d) (eases : m.Eases goal easier) : m.Meets c c' s easier d :=
  fun easiest h => meets easiest (eases.trans h)

/-- Code that computes within more steps does so within fewer. -/
theorem Computes.fewer {count count' : Nat} (h : m.Computes (some count') F M)
    (le : count ≤ count') : m.Computes (some count) F M :=
  fun c c' code goal pulls => h c c' code goal (pulls.more le)

/-! ## Straight code -/

/-- No code stays where it is. -/
theorem computes_nothing : m.Computes steps? .nothing .nothing := by
  rintro c _ rfl goal pulls d s rest entry sized back meets ends
  exact meets goal pulls.eases s rest ⟨entry, sized, .refl _ _ _⟩ (.refl _ _ _) back ends

/-- What does not stand in any program need not do anything. -/
theorem computes_never (M : Matcher) : m.Computes steps? .never M :=
  fun _ _ code => absurd code id

/-- An instruction that takes something from the subject or backtracks. -/
theorem goal_of_afterConsuming {c : Cursor} {goal : Step → Prop} {d : Demand} {s : State}
    {rest : Prop} {taken : Option (Text × Position)} (pulls : m.Pulls steps? goal)
    (entry : s.ip = c.ip) (sized : s.Sized m.program) (back : rest → goal s.stack.fallBack)
    (meets : m.Meets c (c.advance 1) s goal d)
    (ends : d.along ((taken.map (·.2)).toList) rest) : goal (s.afterConsuming taken) := by
  cases taken with
  | none => exact back ends
  | some found =>
    have moved : s.ip + 1 = (c.advance 1).ip := by
      rw [entry]
      rfl
    exact meets goal pulls.eases { s with pos := found.2, ip := s.ip + 1 } rest
      ⟨moved, ⟨sized.counters, sized.marks⟩, .refl _ _ _⟩ ⟨fun _ _ => rfl, fun _ _ => rfl⟩ back ends

/-- An instruction that consumes has one end or none. -/
theorem computes_unit {i : Instruction Nat} {take : Position → Option (Text × Position)}
    (execute : ∀ s, m.execute s i = s.afterConsuming (take s.pos)) :
    m.Computes steps? (.code [i]) (.unit take) := by
  rintro c _ ⟨code, rfl⟩ goal pulls d s rest entry sized back meets ends
  have here : m.program.code[s.ip]? = some i := by
    rw [entry]
    exact code.1
  refine pulls.of_code here ?_
  rw [execute]
  exact goal_of_afterConsuming pulls entry sized back meets ends

theorem computes_string (text : Text) (level : MatchLevel) :
    m.Computes steps? (.string text level)
      (.unit (Position.matchString? m.subject · text level)) := by
  rintro c _ ⟨id, found, code, rfl⟩ goal pulls d s rest entry sized back meets ends
  have known : id.index < m.program.strings.size := by
    rcases Array.getElem?_eq_some_iff.1 found with ⟨inside, _⟩
    exact inside
  have here : m.program.code[s.ip]? = some (.matchString id level) := by
    rw [entry]
    exact code.1
  refine pulls.of_code here ?_
  rw [Machine.execute, if_pos known, Instruction.consumes?, found]
  exact goal_of_afterConsuming pulls entry sized back meets ends

theorem computes_append (h : m.Computes steps? F M) (h' : m.Computes steps? G N) (hF : F.Forward)
    (hG : G.Forward) : m.Computes steps? (F.append G) (M.append N) := by
  rintro c c' ⟨middle, first, second⟩ goal pulls d s rest entry sized back meets ends
  have low := hF _ _ _ first
  have high := hG _ _ _ second
  -- what the first part has to meet is what the second part makes of its ends
  refine h c middle first goal pulls (d.through N) s rest entry sized back ?_ ?_
  · intro easier eases s' rest' exits spares back' ends'
    refine h' middle c' second easier (eases.pulls pulls) d s' rest' exits.ip exits.sized back' ?_
      ends'
    intro easiest eases' s'' rest'' exits' spares'
    refine meets easiest (eases.trans eases') s'' rest'' (exits.trans exits' low high) ?_
    exact (spares.mono (.refl c) high).trans (spares'.mono low (.refl c'))
  · rwa [Matcher.append, Demand.along_flatMap] at ends

/-! ## Groups -/

/-- Behind a cut, the stack is as it was in front of the fence. -/
theorem goal_of_fence {goal : Step → Prop} (pulls : m.Pulls steps? goal) (h : m.Computes steps? F M)
    {c last : Cursor} {rewind : Bool} (fence : m.program.code[c.ip]? = some .fence)
    (body : F m.program (c.advance 1) last) (cut : m.program.code[last.ip]? = some (.cut rewind))
    {s : State} (entry : s.ip = c.ip) (sized : s.Sized m.program) {d : Demand} {rest : Prop}
    (back : rest → goal s.stack.fallBack)
    (later : ∀ easier, m.Eases goal easier → ∀ (t : State) (q : Position) (rest' : Prop),
      t.ip = last.ip + 1 → t.Sized m.program → s.Spares (c.advance 1) last t →
      t.stack = s.stack → t.pos = (if rewind then s.pos else q) → d.holds q rest' →
      easier (.next t))
    (ends : d.along (M s.pos) rest) : goal (.next s) := by
  have here : m.program.code[s.ip]? = some .fence := by
    rw [entry]
    exact fence
  refine pulls.of_code here ?_
  -- the body runs above the fence, and what it leaves there is cut off together with it
  refine h _ _ body goal pulls d (s.push (.fence s.toSnapshot)).next rest (congrArg (· + 1) entry)
    ⟨sized.counters, sized.marks⟩ back ?_ ends
  intro easier eases s' rest' exits spares _ holds
  have here : m.program.code[s'.ip]? = some (.cut rewind) := by
    rw [exits.ip]
    exact cut
  refine (eases.pulls pulls).of_code here ?_
  have below : s'.stack.cut? = some (s.pos, s.stack) := exits.stack.cut?
  rw [execute, State.cut, below]
  exact later easier eases _ s'.pos rest' (congrArg (· + 1) exits.ip)
    ⟨exits.sized.counters, exits.sized.marks⟩ ⟨spares.counters, spares.marks⟩ rfl rfl holds

theorem computes_atomic (h : m.Computes steps? F M) (hF : F.Forward) :
    m.Computes steps? (F.fenced false) M.atomic := by
  rintro c _ ⟨_, ⟨fence, rfl⟩, last, body, cut, rfl⟩ goal pulls d s rest entry sized back meets ends
  have forward := hF _ _ _ body
  have none (stuck : M s.pos = []) : rest := by
    rwa [Matcher.atomic, stuck] at ends
  -- the body is entered with a fence below; only its first end gets to the cut
  refine goal_of_fence pulls h fence.1 body cut.1 entry sized (d := d.once rest) back ?_
    (Demand.along_once ends none)
  intro easier eases t q _ ip sized' spares stack pos holds
  rw [← stack] at back
  -- behind the cut, the stack is the one in front of the fence
  have exits : s.Exits m.program c (last.advance 1) t := by
    refine ⟨ip, sized', ?_⟩
    rw [stack]
    exact .refl _ _ _
  refine meets easier eases t rest exits (spares.mono (c.le_advance 1) (last.le_advance 1))
    (fun holds => eases.imp (back holds)) ?_
  rw [pos]
  exact holds

theorem computes_lookahead (h : m.Computes steps? F M) (hF : F.Forward) :
    m.Computes steps? (F.fenced true) M.lookahead := by
  rintro c _ ⟨_, ⟨fence, rfl⟩, last, body, cut, rfl⟩ goal pulls d s rest entry sized back meets ends
  have forward := hF _ _ _ body
  refine goal_of_fence pulls h fence.1 body cut.1 entry sized (d := .const (d.holds s.pos rest))
    back ?_ (Demand.along_const ?_ ?_)
  · intro easier eases t q _ ip sized' spares stack pos holds
    rw [← stack] at back
    have exits : s.Exits m.program c (last.advance 1) t := by
      refine ⟨ip, sized', ?_⟩
      rw [stack]
      exact .refl _ _ _
    refine meets easier eases t rest exits (spares.mono (c.le_advance 1) (last.le_advance 1))
      (fun holds => eases.imp (back holds)) ?_
    -- the cut goes back to the position of the fence
    rw [pos]
    exact holds
  · intro none
    simpa [Matcher.lookahead, none] using ends
  · intro some
    simpa [Matcher.lookahead, some] using ends

theorem computes_negated (h : m.Computes steps? F M) (hF : F.Forward) :
    m.Computes steps? F.negated M.negated := by
  rintro c c' ⟨_, ⟨head, rfl⟩, last, body, tail, rfl⟩ goal pulls d s rest entry sized back meets
    ends
  have forward := hF _ _ _ body
  rcases head with ⟨save, fence, -⟩
  rcases tail with ⟨cut, clear, fail, -⟩
  -- a failure of the body resumes behind the code, with the state of the entry
  have resumes : d.holds s.pos rest → goal (s.push (s.resumeAt (last.ip + 3))).stack.fallBack := by
    intro holds
    exact meets goal pulls.eases { s with ip := last.ip + 3 } rest
      ⟨rfl, ⟨sized.counters, sized.marks⟩, .refl _ _ _⟩ ⟨fun _ _ => rfl, fun _ _ => rfl⟩ back holds
  have here : m.program.code[s.ip]? = some (.save (last.ip + 3)) := by
    rw [entry]
    exact save
  refine pulls.of_code here ?_
  refine goal_of_fence pulls h (c := c.advance 1) fence body cut (congrArg (· + 1) entry)
    (s := (s.push (s.resumeAt (last.ip + 3))).next) ⟨sized.counters, sized.marks⟩
    (d := .const rest) resumes ?_ (Demand.along_const ?_ ?_)
  · -- a success of the body clears the saved checkpoint and then falls back below it
    intro easier eases t q _ ip _ _ stack _ holds
    have here : m.program.code[t.ip]? = some .clear := by
      rw [ip]
      exact clear
    refine (eases.pulls pulls).of_code here ?_
    rw [execute, State.clear, stack]
    have behind : m.program.code[t.ip + 1]? = some .fail := by
      rw [ip]
      exact fail
    refine (eases.pulls pulls).of_code behind ?_
    exact eases.imp (back holds)
  · intro (none : M s.pos = [])
    simpa [Matcher.negated, none] using ends
  · intro (some : M s.pos ≠ [])
    simpa [Matcher.negated, some] using ends

/-! ## Branches -/

theorem computes_alternation_singleton (h : m.Computes steps? F M) :
    m.Computes steps? (.alternation [F]) (.alternation [M]) := by
  intro c c' code goal pulls d s rest entry sized back meets ends
  refine h c c' code goal pulls d s rest entry sized back meets ?_
  simpa [Matcher.alternation, Matcher.never] using ends

/-- The first branch falls back to the others. -/
theorem computes_alternation_cons {Fs : List Fragment} {Ms : List Matcher}
    (h : m.Computes steps? F M)
    (h' : m.Computes steps? (.alternation (G :: Fs)) (.alternation Ms)) (hF : F.Forward)
    (hFs : (Fragment.alternation (G :: Fs)).Forward) :
    m.Computes steps? (.alternation (F :: G :: Fs)) (.alternation (M :: Ms)) := by
  rintro c c' ⟨last, save, body, branch, others⟩ goal pulls d s rest entry sized back meets ends
  have low := hF _ _ _ body
  have high := hFs _ _ _ others
  -- the other branches lie behind the jump of the first one
  have after : c.Le (last.advance 1) :=
    ((c.le_advance 1).trans low).trans (last.le_advance 1)
  rw [Matcher.alternation, Demand.along_append] at ends
  have next : d.along (Matcher.alternation Ms s.pos) rest →
      goal (s.push (s.resumeAt (last.ip + 1))).stack.fallBack := by
    intro ends'
    refine h' _ c' others goal pulls d { s with ip := last.ip + 1 } rest rfl
      ⟨sized.counters, sized.marks⟩ back ?_ ends'
    intro easier eases s' rest' exits spares
    refine meets easier eases s' rest'
      ⟨exits.ip, exits.sized, exits.stack.mono after.ip (Nat.le_refl _)⟩ ?_
    exact State.Spares.mono ⟨spares.counters, spares.marks⟩ after (.refl c')
  have here : m.program.code[s.ip]? = some (.save (last.ip + 1)) := by
    rw [entry]
    exact save
  refine pulls.of_code here ?_
  refine h _ last body goal pulls d (s.push (s.resumeAt (last.ip + 1))).next _
    (congrArg (· + 1) entry) ⟨sized.counters, sized.marks⟩ next ?_ ends
  intro easier eases s' rest' exits spares back' ends'
  -- an end of the first branch goes on behind the last one, with the others still to resume
  have here : m.program.code[s'.ip]? = some (.branch c'.ip) := by
    rw [exits.ip]
    exact branch
  refine (eases.pulls pulls).of_code here ?_
  have saved : s.stack.Leaves c.ip c'.ip (s.push (s.resumeAt (last.ip + 1))).stack :=
    (CheckpointStack.Leaves.refl _ _ _).push after.ip high.ip
  have stack := saved.trans <|
    exits.stack.mono (Nat.le_succ _) (Nat.le_trans (Nat.le_succ _) high.ip)
  refine meets easier eases (s'.jump c'.ip) rest'
    ⟨rfl, ⟨exits.sized.counters, exits.sized.marks⟩, stack⟩ ?_ back' ends'
  exact State.Spares.mono ⟨spares.counters, spares.marks⟩ (c.le_advance 1)
    ((last.le_advance 1).trans high)

end Machine

end GraphemeRegex
