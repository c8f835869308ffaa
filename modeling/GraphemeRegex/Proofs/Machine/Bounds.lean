import GraphemeRegex.Proofs.Machine.Fitting
import GraphemeRegex.Proofs.Program.Building
import GraphemeRegex.Proofs.Text.Boundaries

/-! # Bounds — what a run of any built program can come to

A program that was written by hand need not be one of a pattern: it can jump anywhere, loop and cut
as it likes. But the builder has checked its operands, so nothing that a run looks up is missing,
and all that a run remembers stays within the subject and the program.

* `Snapshot.Bounded`, `State.Bounded`: the data of a run is within bounds.
* `Machine.Stumbles`: the three faults that checked operands do not exclude.
* `State.Lands.step`: a step of a closed program does not leave its code, nor does what it saves.
* `Builder.runs_within_bounds`: all this for each run of a program that calls of a builder give.
-/

namespace GraphemeRegex

/-! ## Bounds -/

/-- The position is one of the text, and its offset is between `start` and the end. -/
structure Text.From (text : Text) (start : Nat) (p : Position) : Prop where
  place : text.positionAt? p.offset = some p
  low : start ≤ p.offset
  high : p.offset ≤ text.byteLength

/-- The next instruction is one of the program or its end, and the position and the registers fit
the program and the part of the subject that begins at `start`. -/
structure Snapshot.Bounded (m : Machine) (start : Nat) (s : Snapshot) : Prop where
  ip : s.ip ≤ m.program.size
  pos : m.subject.From start s.pos
  counters : s.counters.size = m.program.counters.size
  /-- No counter is above the value with which it begins. -/
  counted : ∀ n v w : Nat, s.counters[n]? = some v → m.program.counters[n]? = some w → v ≤ w
  marks : s.marks.size = m.program.marks
  /-- A mark is unset or holds an offset of that part. -/
  marked : ∀ n offset : Nat, s.marks[n]? = some (some offset) →
    start ≤ offset ∧ offset ≤ m.subject.byteLength

/-- A state is within bounds, with all that its checkpoints save. -/
structure State.Bounded (m : Machine) (start : Nat) (s : State) : Prop where
  now : s.toSnapshot.Bounded m start
  saved : ∀ e ∈ s.stack.entries, e.saved.Bounded m start

/-- A position that is reached from one of the text lies behind that one in the text. -/
theorem Text.from_of_reaches {text : Text} {start : Nat} {begin p : Position}
    (begins : text.positionAt? start = some begin) (h : begin.Reaches p) : text.From start p := by
  obtain ⟨inside, here⟩ := positionAt?_eq_some_iff.1 begins
  constructor
  · exact positionAt?_eq_some_iff.2 ⟨inside.trans h, rfl⟩
  · rw [← here]
    exact h.offset_le
  · exact offset_le_byteLength (inside.trans h)

/-! ## Places in the code -/

/-- The next instruction is one of the program or its end, and so is each one that a checkpoint
saves. -/
structure State.Lands (p : Program) (s : State) : Prop where
  now : s.ip ≤ p.size
  saved : ∀ e ∈ s.stack.entries, e.saved.ip ≤ p.size

variable {m : Machine} {s s' s₀ : State}

/-- A step of a closed program leads to a place of the program, and what it saves does as well. -/
theorem State.Lands.step (closed : m.program.Closed) (h : s.Lands m.program)
    (next : m.step s = .next s') : s'.Lands m.program := by
  obtain ⟨i, code, effect⟩ := Machine.effect_of_step next
  obtain ⟨inside, _⟩ := Array.getElem?_eq_some_iff.1 code
  have mem : i ∈ m.program.code := Array.mem_of_getElem? code
  -- behind an instruction comes another one or the end
  have behind : s.ip + 1 ≤ m.program.size := inside
  have go {target : Nat} (place : target = s.ip + 1 ∨ target ∈ i.targets) :
      target ≤ m.program.size := by
    rcases place with rfl | isTarget
    · exact behind
    · exact closed.targets i mem target isTarget
  cases effect with
  | take | count | reset | mark => exact ⟨behind, h.saved⟩
  | go place => exact ⟨go place, h.saved⟩
  | push _ place entry =>
    refine ⟨go place, ?_⟩
    intro e onStack
    rcases List.mem_cons.1 onStack with rfl | old
    · -- a marker saves the present place, and an entry that can be resumed from a target
      rcases entry with rfl | rfl | ⟨resume, isTarget, rfl⟩
      · exact h.now
      · exact h.now
      · exact go (.inr isTarget)
    · exact h.saved e old
  | drop left => exact ⟨behind, fun e onStack => h.saved e (left.mem onStack)⟩
  | @back saved T found =>
    obtain ⟨dropped, split⟩ := CheckpointStack.unwind_eq_some found
    constructor
    · exact h.saved (.resume saved) (by simp [split])
    · intro e onStack
      exact h.saved e (by simp [split, onStack])

/-- What a run comes to is in the program, and so is all that it has saved. -/
theorem State.lands_of_visits (closed : m.program.Closed) (first : s₀.Lands m.program)
    (visits : m.Visits s₀ s) : s.Lands m.program := by
  induction visits with
  | refl => exact first
  | step _ next ih => exact ih.step closed next

/-- Data that fits is within bounds, if no place of it lies outside the program. -/
theorem State.Fits.bounded {start : Nat} {begin : Position}
    (begins : m.subject.positionAt? start = some begin) (fits : s.Fits m begin.Reaches)
    (lands : s.Lands m.program) : s.Bounded m start := by
  -- the same for the state now and for each one that was saved
  have bounded {a : Snapshot} (h : a.Fits m begin.Reaches) (ip : a.ip ≤ m.program.size) :
      a.Bounded m start :=
    { ip := ip
      pos := Text.from_of_reaches begins h.pos
      counters := h.counters
      counted := h.bounded
      marks := h.marks
      marked := by
        intro n offset found
        obtain ⟨p, reached, rfl⟩ := h.marked n offset found
        have within := Text.from_of_reaches begins reached
        exact ⟨within.low, within.high⟩ }
  constructor
  · exact bounded fits.now lands.now
  · intro e mem
    exact bounded (fits.saved e mem) (lands.saved e mem)

/-! ## Faults -/

namespace CheckpointStack

variable {S : CheckpointStack}

theorem entries_of_pop? (h : S.pop? = none) : S.entries = [] := by
  cases entries : S.entries with
  | nil => rfl
  | cons e rest =>
    obtain rfl := eq_push entries
    cases h

/-- A cut that finds no fence has looked at all entries. -/
theorem not_mem_of_cut? (h : S.cut? = none) (saved : Snapshot) : .fence saved ∉ S.entries := by
  induction entries : S.entries generalizing S with
  | nil => exact List.not_mem_nil
  | cons e rest ih =>
    obtain rfl := eq_push entries
    intro mem
    rcases List.mem_cons.1 mem with rfl | below
    · cases h
    · cases e with
      | resume | placeholder => exact ih (S := ofList rest) h rfl below
      | fence => cases h

end CheckpointStack

namespace Machine

/-- The three ways in which a state can be a fault although all operands are known: nothing comes
next, a clear finds no checkpoint, or a cut finds no fence. -/
inductive Stumbles (m : Machine) (s : State) : MachineFault → Prop where
  | offEnd (behind : s.ip = m.program.size) : Stumbles m s (.ranOffEnd s.ip m.program.size)
  | clear (code : m.program.code[s.ip]? = some .clear) (empty : s.stack.entries = []) :
    Stumbles m s (.nothingToClear s.ip)
  | cut {rewind : Bool} (code : m.program.code[s.ip]? = some (.cut rewind))
    (unfenced : ∀ saved, .fence saved ∉ s.stack.entries) : Stumbles m s (.cutWithoutFence s.ip)

variable {f : MachineFault}

/-- An instruction with known operands does not fault, unless it is a clear or a cut. -/
theorem stumbles_of_execute {i : Instruction Nat} (code : m.program.code[s.ip]? = some i)
    (knows : m.program.Knows i) (sized : s.Sized m.program) (h : m.execute s i = .fault f) :
    m.Stumbles s f := by
  have backtracks : s.backtrack ≠ .fault f := by
    unfold State.backtrack
    split <;> exact Step.noConfusion
  by_cases plain : i.isPlain = true
  · -- a plain instruction expects nothing of the stack, so it obeys whatever the stack is
    have obeys : (m.execute s i).Obeys (fun _ _ => True) s.stack.entries :=
      obeys_execute_of_plain plain knows sized (fun _ _ => trivial) trivial .base
    rw [h] at obeys
    exact obeys.elim
  · cases i with
    | save | savePlaceholder | branch | split | fence => cases h
    | fail => exact absurd h backtracks
    | accept =>
      rw [execute] at h
      split at h
      · cases h
      · exact absurd h backtracks
    | clear =>
      rw [execute, State.clear] at h
      split at h
      · rename_i missing
        cases h
        exact .clear code (CheckpointStack.entries_of_pop? missing)
      · cases h
    | cut rewind =>
      rw [execute, State.cut] at h
      split at h
      · rename_i missing
        cases h
        exact .cut code (CheckpointStack.not_mem_of_cut? missing)
      · cases h
    | _ => exact absurd rfl plain

/-- A closed program faults in one of the three ways only. -/
theorem stumbles_of_step (closed : m.program.Closed) (sized : s.Sized m.program)
    (lands : s.Lands m.program) (h : m.step s = .fault f) : m.Stumbles s f := by
  unfold step at h
  split at h
  · rename_i missing
    cases h
    have outside : m.program.size ≤ s.ip := Array.getElem?_eq_none_iff.1 missing
    exact .offEnd (Nat.le_antisymm lands.now outside)
  · rename_i i code
    exact stumbles_of_execute code (closed.knows i (Array.mem_of_getElem? code)) sized h

end Machine

/-! ## Built programs -/

/-- Whatever calls a builder was given, the program that comes of them stays within bounds, on each
subject, from each place of it and with all limits: so does each state that a run comes to, a state
faults only in the three ways that the checks leave, and a match ends in the subject and not in
front of its start. -/
theorem Builder.runs_within_bounds {calls : List Call} {b : Builder} {p : Program}
    (performed : empty.performAll calls = .ok b) (assembled : b.assemble = .ok p)
    {subject : Text} {start : Nat} {begin : Position}
    (begins : subject.positionAt? start = some begin) (acceptAtEnd : Bool) (limits : Limits) :
    let m : Machine := ⟨p, subject, acceptAtEnd⟩
    (∀ s, m.Visits (.initial p begin) s → s.Bounded m start) ∧
      (∀ s f, m.Visits (.initial p begin) s → m.step s = .fault f → m.Stumbles s f) ∧
      (∀ f, m.runAt limits start = .error (.machine f) →
        ∃ s, m.Visits (.initial p begin) s ∧ m.step s = .fault f ∧ m.Stumbles s f) ∧
      ∀ stop, m.runAt limits start = .ok (some stop) → subject.From start stop := by
  intro m
  have closed : m.program.Closed := closed_of_performAll performed assembled
  have first : (State.initial p begin).Lands m.program :=
    ⟨Nat.zero_le _, fun _ mem => absurd mem List.not_mem_nil⟩
  have bounded : ∀ s, m.Visits (.initial p begin) s → s.Bounded m start := by
    intro s visits
    exact (State.fits_of_visits visits).bounded begins (State.lands_of_visits closed first visits)
  have stumbles : ∀ s f, m.Visits (.initial p begin) s → m.step s = .fault f →
      m.Stumbles s f := by
    intro s f visits step
    exact Machine.stumbles_of_step closed (State.fits_of_visits visits).sized
      (State.lands_of_visits closed first visits) step
  -- a run from an offset is a run from the position there
  have runs : m.runAt limits start = m.runFrom limits limits.fuel (.initial p begin) := by
    rw [Machine.runAt, begins]
    rfl
  refine ⟨bounded, stumbles, ?_, ?_⟩
  · intro f ran
    rw [runs] at ran
    obtain ⟨s, visits, step⟩ := (Machine.exists_end_of_runFrom .refl).2 f ran
    exact ⟨s, visits, step, stumbles s f visits step⟩
  · intro stop ran
    rw [runs] at ran
    obtain ⟨s, visits, halts⟩ := (Machine.exists_end_of_runFrom .refl).1 (some stop) ran
    rcases Machine.halt_of_step halts with ⟨none, _⟩ | ⟨_, here⟩
    · cases none
    · rw [Option.some.inj here]
      exact (bounded s visits).now.pos

/-- A program that goes back to its fence, counts a pass and then clears a checkpoint that nobody
has pushed. -/
theorem Builder.bounds_of_rewinding :
    let calls : List Call := [.newLabel, .newCounter 1, .newMark, .place ⟨0⟩, .emit .fence rfl,
      .emit (.mark ⟨0⟩) rfl, .emitString ['a'] .grapheme, .emit (.cut true) rfl,
      .emit (.condBranch ⟨0⟩ ⟨0⟩) rfl, .emit .clear rfl]
    let p : Program := ⟨#[.fence, .mark ⟨0⟩, .matchString ⟨0⟩ .grapheme, .cut true,
      .condBranch 0 ⟨0⟩, .clear], ⟨#[['a']]⟩, #[1], 1⟩
    let m : Machine := ⟨p, ['b', 'a'], false⟩
    let behind : State := ⟨⟨5, ⟨1, ['a']⟩, #[0], #[some 1]⟩, .empty⟩
    (empty.performAll calls >>= assemble) = .ok p ∧
      m.Visits (.initial p ⟨1, ['a']⟩) behind ∧ behind.Bounded m 1 ∧
      m.Stumbles behind (.nothingToClear 5) := by
  intro calls p m behind
  obtain ⟨b, performed, assembled⟩ : ∃ b, empty.performAll calls = .ok b ∧ b.assemble = .ok p :=
    ⟨⟨#[.fence, .mark ⟨0⟩, .matchString ⟨0⟩ .grapheme, .cut true, .condBranch ⟨0⟩ ⟨0⟩, .clear],
      #[some 0], #[1], 1, ⟨#[['a']]⟩⟩, by decide +kernel, by decide +kernel⟩
  have begins : m.subject.positionAt? 1 = some ⟨1, ['a']⟩ := by decide
  -- a fence, a mark, a text, the cut, and the branch that is not taken
  have visits : m.Visits (.initial p ⟨1, ['a']⟩) behind :=
    .step (.step (.step (.step (.step .refl rfl) rfl) rfl) rfl) rfl
  obtain ⟨bounded, stumbles, _⟩ :=
    runs_within_bounds performed assembled begins false .standard
  have built : (empty.performAll calls >>= assemble) = .ok p := by
    rw [performed]
    exact assembled
  exact ⟨built, visits, bounded behind visits, stumbles behind _ visits rfl⟩

end GraphemeRegex
