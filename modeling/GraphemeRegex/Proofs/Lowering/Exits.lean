import GraphemeRegex.Proofs.Lowering.Correctness
import GraphemeRegex.Proofs.Lowering.Enclosure
import GraphemeRegex.Proofs.Lowering.Locality
import GraphemeRegex.Proofs.Lowering.Supported
import GraphemeRegex.Proofs.Machine.FallingBack

/-! # Exits — where the code of a part of a pattern is left

Whenever control comes behind the code of a part of a pattern, at first or because something that
the part has left on the stack was resumed, the run stands at one of the ends of the part. To see
this for one position, the code behind the part is replaced by a probe, which accepts there and
nowhere else. If the position were no end, then the run with the probe would come back to the stack
of the entry without having been there.

* `Machine.probedAt`: the machine with a probe behind some code.
* `Machine.Episode.mem_ends`: code is left at ends of its pattern.
* `Pattern.mayBeEmpty_sound`: a pattern that may not be empty consumes something on every path.
-/

namespace GraphemeRegex

/-! ## Demands on single ends -/

namespace Demand

/-- The demand that something holds of each end. -/
def each (P : Position → Prop) : Demand where
  holds q rest := P q ∧ rest
  mono _ _ _ imp h := ⟨h.1, imp h.2⟩

/-- A demand on each end does not ask for more. -/
theorem along_each {P : Position → Prop} {ends : List Position} {rest : Prop}
    (all : ∀ q ∈ ends, P q) (h : rest) : (each P).along ends rest := by
  induction ends with
  | nil => exact h
  | cons q ends ih =>
    refine ⟨all q List.mem_cons_self, ih ?_⟩
    intro r mem
    exact all r (List.mem_cons_of_mem q mem)

end Demand

/-! ## Probes -/

namespace Program

variable {p : Program} {stop : Nat} {rest : Text}

/-- The program up to an index, and there a look whether `rest` comes next and nothing behind it. -/
def probedAt (p : Program) (stop : Nat) (rest : Text) : Program :=
  { p with
    code := Array.ofFn fun n : Fin (stop + 2) =>
      if n < stop then p.code[n.val]?.getD .fail
      else if n = stop then .matchText rest .scalar
      else .accept }

/-- The probe stands behind the code, which is left as it is. -/
theorem agreesUpTo_probedAt (p : Program) (stop : Nat) (rest : Text) :
    p.AgreesUpTo (p.probedAt stop rest) stop where
  code ip i inside code := by
    have small : ip < stop + 2 := by omega
    simp [probedAt, small, inside, code]
  strings := rfl
  counters := rfl
  marks := rfl

theorem code_probedAt_stop :
    (p.probedAt stop rest).code[stop]? = some (.matchText rest .scalar) := by
  simp [probedAt]

theorem code_probedAt_succ : (p.probedAt stop rest).code[stop + 1]? = some .accept := by
  have behind : ¬ stop + 1 < stop := by omega
  simp [probedAt, behind]

/-- The probe keeps to the shape with which it is entered. -/
theorem keeps_probe :
    (p.probedAt stop rest).Keeps (fun _ => True) (fun _ _ => False) stop [] := by
  have knows : (p.probedAt stop rest).Knows (.matchText rest .scalar) := by
    constructor <;> simp [Instruction.counters, Instruction.marks, Instruction.strings]
  refine .of_code trivial code_probedAt_stop (.plain rfl knows ?_ ?_)
  · simp [Instruction.targets]
  · exact .of_code trivial code_probedAt_succ .accept

end Program

namespace Machine

variable {m : Machine} {stop : Nat} {rest : Text} {s s₀ : State}

/-- The machine with a probe, which accepts where `rest` is all that is left of the subject. -/
def probedAt (m : Machine) (stop : Nat) (rest : Text) : Machine where
  program := m.program.probedAt stop rest
  subject := m.subject
  acceptAtEnd := true

/-- In front of the probe, a step is the same. -/
theorem step_probedAt {i : Instruction Nat} (inside : s.ip < stop)
    (code : m.program.code[s.ip]? = some i) (inner : i ≠ .accept) :
    (m.probedAt stop rest).step s = m.step s := by
  have same : (m.probedAt stop rest).program.code[s.ip]? = some i :=
    (m.program.agreesUpTo_probedAt stop rest).code s.ip i inside code
  rw [step_of_code code, step_of_code same]
  cases i with
  | accept => exact absurd rfl inner
  | _ => rfl

theorem step_at_probe (out : s.ip = stop) :
    (m.probedAt stop rest).step s = s.afterConsuming ((s.pos.after? rest).map (rest, ·)) := by
  have code : (m.probedAt stop rest).program.code[s.ip]? = some (.matchText rest .scalar) := by
    rw [out]
    exact Program.code_probedAt_stop
  exact step_of_code code

/-- Behind the probe, only the end of the subject is accepted. -/
theorem step_behind_probe (out : s.ip = stop + 1) (within : m.subject.start.Reaches s.pos) :
    (m.probedAt stop rest).step s =
      if s.pos.rest = [] then .halt (some s.pos) else s.backtrack := by
  have code : (m.probedAt stop rest).program.code[s.ip]? = some .accept := by
    rw [out]
    exact Program.code_probedAt_succ
  have accepts : (m.probedAt stop rest).acceptsAt s.pos = true ↔ s.pos.rest = [] := by
    rw [← Text.offset_eq_byteLength_iff within]
    simp [acceptsAt, probedAt]
  rw [step_of_code code]
  exact if_congr accepts rfl rfl

/-- Elsewhere the probe falls back. -/
theorem goal_of_probe {goal : Step → Prop}
    (pull : ∀ s, goal ((m.probedAt stop rest).step s) → goal (.next s)) (out : s.ip = stop)
    (within : m.subject.start.Reaches s.pos) (elsewhere : s.pos.rest ≠ rest)
    (back : goal s.stack.fallBack) : goal (.next s) := by
  apply pull
  rw [step_at_probe out]
  cases taken : s.pos.after? rest with
  | none => exact back
  | some q =>
    -- something is left behind the text, so the position is not accepted
    apply pull
    have more : q.rest ≠ [] := by
      intro nothing
      apply elsewhere
      rw [(Position.after?_eq_some_iff.1 taken).1, nothing, List.append_nil]
    rw [step_behind_probe (congrArg (· + 1) out) (within.trans ⟨rest, taken⟩), if_neg more]
    exact back

/-- Where `rest` is all that is left, the run with the probe ends with a match. -/
theorem not_fallsBack_at_probe {S : CheckpointStack} (out : s.ip = stop)
    (within : m.subject.start.Reaches s.pos) (here : s.pos.rest = rest)
    (above : S.entries <:+ s.stack.entries) : ¬ (m.probedAt stop rest).FallsBack S (.next s) := by
  intro falls
  obtain ⟨q, taken, nothing⟩ : ∃ q, s.pos.after? rest = some q ∧ q.rest = [] :=
    ⟨⟨_, []⟩, Position.after?_eq_some_iff.2 ⟨by simp [here], rfl⟩, rfl⟩
  have first := falls.step above
  rw [step_at_probe out, taken] at first
  have second := first.step above
  rw [step_behind_probe (congrArg (· + 1) out) (within.trans ⟨rest, taken⟩), if_pos nothing]
    at second
  cases (CheckpointStack.fallBack_eq_halt second.fallBack_eq_halt).1

end Machine

/-! ## Episodes with a probe -/

namespace Machine.Episode

variable {m : Machine} {level : MatchLevel} {X : Pattern} {c c' : Cursor} {start : Position}
  {s₀ s : State} {rest : Text}

/-- If the code behind a part is never left, then a run that falls back from the entry of the part
to below it falls back to there from every state of the episode. -/
theorem fallsBack {F : Fragment} (keeps : F.Keeps []) (stands : F m.program c c')
    (behind : m.program.Keeps (fun _ => True) (fun _ _ => False) c'.ip [])
    (fits : s₀.Fits m start.Reaches) (entry : s₀.ip = c.ip)
    (falls : m.FallsBack s₀.stack (.next s₀)) (h : m.Episode c'.ip s₀ s) :
    m.FallsBack s₀.stack (.next s) := by
  have obeys {t : State} (before : m.Episode c'.ip s₀ t) :=
    before.obeys keeps stands (.inl rfl) fits entry
  induction h with
  | enter => exact falls
  | step before _ next _ ih =>
    obtain ⟨_, _, _, shaped⟩ := obeys before
    have onward := ih.step shaped.suffix
    rwa [next] at onward
  | @resume s t T before out rest own back ih =>
    obtain ⟨fits', τ, place, shaped⟩ := obeys before
    rw [out] at place
    obtain rfl := place.eq_shape
    rw [s₀.stack.depth_eq, T.depth_eq] at own
    have below : s₀.stack.entries <:+ T.entries :=
      List.suffix_of_suffix_length_le shaped.suffix rest (Nat.le_of_lt own)
    -- the run goes on from the end of the part and comes to the entry that is resumed
    have places (a : Nat) (σ : Shape) (place : m.program.Places c c' [] a σ) :
        m.program.Keeps (fun _ => True) (fun _ _ => False) a σ := by
      refine place.onward (fun _ _ => trivial) ?_
      rintro _ _ ⟨rfl, rfl⟩
      exact behind
    have shaped' := (shaped.above_suffix rest (Nat.le_of_lt own)).mono places
    rw [← back]
    exact ih.to_stack (fun _ _ => Program.Keeps.exists_code) below fits'
      ⟨[], out ▸ behind, shaped'⟩

/-- An episode is also one of the machine with a probe behind the code. -/
theorem probedAt (stands : X.fragment level m.program c c') (fits : s₀.Fits m start.Reaches)
    (entry : s₀.ip = c.ip) (rest : Text) (h : m.Episode c'.ip s₀ s) :
    (m.probedAt c'.ip rest).Episode c'.ip s₀ s := by
  have le : c.ip ≤ c'.ip := (X.fragment_forward level _ c c' stands).ip
  induction h with
  | enter => exact .enter
  | @step s t before inside next above ih =>
    obtain ⟨_, τ, place, _⟩ :=
      before.obeys (X.fragment_keeps level [] rfl) stands (.inl rfl) fits entry
    obtain ⟨low, high⟩ := place.bounds le
    obtain ⟨i, code, inner⟩ := X.fragment_inner level _ c c' stands s.ip low (by omega)
    -- inside of the code, the same instructions come next, and none of them accepts
    have same : (m.probedAt c'.ip rest).step s = m.step s := by
      refine step_probedAt (by omega) code ?_
      rintro rfl
      cases inner
    rw [← same] at next above
    exact .step ih inside next above
  | resume _ out suffix own back ih => exact .resume ih out suffix own back

end Machine.Episode

namespace Pattern

variable {m : Machine} {level : MatchLevel} {X : Pattern} {c c' : Cursor} {start q : Position}
  {s₀ s : State}

/-- With a probe for a position that is no end, a part falls back from its entry. -/
theorem fallsBack_of_notMem (few : m.program.FewRegisters) (proper : X.isProper = true)
    (stands : X.fragment level m.program c c') (entry : s₀.ip = c.ip)
    (sized : s₀.Sized m.program) (begins : m.subject.start.Reaches s₀.pos)
    (within : m.subject.start.Reaches q) (other : q ∉ X.ends level m.subject s₀.pos) :
    (m.probedAt c'.ip q.rest).FallsBack s₀.stack (.next s₀) := by
  have stands' : X.fragment level (m.probedAt c'.ip q.rest).program c c' :=
    fragment_local level X m.program _ c c' stands (m.program.agreesUpTo_probedAt c'.ip q.rest)
  have pulls : (m.probedAt c'.ip q.rest).Pulls none
      ((m.probedAt c'.ip q.rest).FallsBack s₀.stack) := ⟨fun _ => .next, nofun⟩
  have few' : (m.probedAt c'.ip q.rest).program.FewRegisters := ⟨few.counters, few.marks⟩
  have computes : (m.probedAt c'.ip q.rest).Computes none (X.fragment level)
      (X.visits none level m.subject) := computes few' level X fun _ => proper
  rw [visits_none level _ X proper] at computes
  -- the code visits its ends, and the probe refuses each of them
  refine computes c c' stands' _ pulls
    (.each fun r => m.subject.start.Reaches r ∧ r.rest ≠ q.rest) s₀ True entry
    ⟨sized.counters, sized.marks⟩ (fun _ => .bottom) ?_ (Demand.along_each ?_ trivial)
  · rintro easier eases s rest exits _ back ⟨⟨within, elsewhere⟩, holds⟩
    exact Machine.goal_of_probe eases.pull exits.ip within elsewhere (back holds)
  · intro r mem
    have reached : m.subject.start.Reaches r :=
      begins.trans (ends_advances level m.subject X s₀.pos r mem)
    refine ⟨reached, ?_⟩
    intro same
    exact other (reached.eq_of_rest within same ▸ mem)

end Pattern

namespace Machine.Episode

variable {m : Machine} {level : MatchLevel} {X : Pattern} {c c' : Cursor} {start : Position}
  {s₀ s : State}

/-- Whenever the code of a proper pattern is left, it is left at one of the ends of the pattern. -/
theorem mem_ends (few : m.program.FewRegisters) (proper : X.isProper = true)
    (stands : X.fragment level m.program c c') (inside : m.subject.start.Reaches start)
    (fits : s₀.Fits m start.Reaches) (entry : s₀.ip = c.ip) (h : m.Episode c'.ip s₀ s)
    (out : s.ip = c'.ip) : s.pos ∈ X.ends level m.subject s₀.pos := by
  have keeps : (X.fragment level).Keeps [] := X.fragment_keeps level [] rfl
  obtain ⟨fits', _, _, shaped⟩ := h.obeys keeps stands (.inl rfl) fits entry
  have within : m.subject.start.Reaches s.pos := inside.trans fits'.now.pos
  by_contra other
  have falls := Pattern.fallsBack_of_notMem few proper stands entry fits.sized
    (inside.trans fits.now.pos) within other
  have stands' : X.fragment level (m.probedAt c'.ip s.pos.rest).program c c' :=
    X.fragment_local level _ _ c c' stands (m.program.agreesUpTo_probedAt c'.ip s.pos.rest)
  have fits₀ : s₀.Fits (m.probedAt c'.ip s.pos.rest) start.Reaches := fits.congr rfl rfl
  have falls' := fallsBack keeps stands' Program.keeps_probe fits₀ entry falls
    (h.probedAt stands fits entry s.pos.rest)
  exact not_fallsBack_at_probe out within rfl shaped.suffix falls'

/-- The code of a pattern that may not be empty is left behind the position of its entry. -/
theorem offset_lt (few : m.program.FewRegisters) (proper : X.isProper = true)
    (filled : X.mayBeEmpty = false) (stands : X.fragment level m.program c c')
    (inside : m.subject.start.Reaches start) (visits : m.Visits (.initial m.program start) s₀)
    (entry : s₀.ip = c.ip) (h : m.Episode c'.ip s₀ s) (out : s.ip = c'.ip) :
    s₀.pos.offset < s.pos.offset := by
  have mem : s.pos ∈ X.ends level m.subject s₀.pos :=
    h.mem_ends few proper stands inside (State.fits_of_visits visits) entry out
  have reached : s₀.pos.Reaches s.pos := X.ends_advances level m.subject s₀.pos s.pos mem
  exact reached.offset_lt (X.ends_consumes level m.subject filled proper s₀.pos s.pos mem)

/-- A whole run of the program of a pattern is an episode. -/
theorem of_visits {stop : Cursor} (compiled : X.Compiled level m.program stop)
    (visits : m.Visits (.initial m.program start) s) :
    m.Episode stop.ip (.initial m.program start) s := by
  induction visits with
  | refl => exact .enter
  | @step s t _ next ih =>
    by_cases out : s.ip = stop.ip
    · -- the end is refused, so the run goes on with what is left on the stack
      have back : s.stack.fallBack = .next t := by
        rw [step_of_code (out ▸ compiled.accept), execute] at next
        split at next
        · cases next
        · exact next
      have left : 0 < s.stack.depth := by
        rw [s.stack.depth_eq]
        exact Nat.zero_lt_of_lt (CheckpointStack.length_lt_of_fallBack back)
      exact .resume ih out List.suffix_rfl left back
    · refine .step ih out next ?_
      -- nothing lies below the program
      intro bottom
      cases next.symm.trans bottom

end Machine.Episode

/-! ## Patterns that may not be empty -/

namespace Pattern

/-- Leveling does not change which patterns may be empty. A supported and proper pattern that may
not be empty has a program at each level. Whenever a run of this program comes to the end of the
code, it has consumed something since the start.

The same holds of the code of such a pattern inside another program. Whenever control comes behind
the code, at first or because one of the entries that the code has left on the stack is resumed, the
position lies behind the one of the entry. -/
theorem mayBeEmpty_sound :
    (∀ (level : MatchLevel) (X tree : Pattern), X.withLevel level = .ok tree →
      tree.mayBeEmpty = X.mayBeEmpty) ∧
    ∀ (level : MatchLevel) (X : Pattern), X.isSupported = true → X.isProper = true →
      X.mayBeEmpty = false →
        (∃ (p : Program) (stop : Cursor), X.compile level = .ok p ∧ X.Compiled level p stop ∧
          (p.FewRegisters →
            ∀ (subject : Text) (acceptAtEnd : Bool) (offset : Nat) (start : Position) (s : State),
              let m : Machine := ⟨p, subject, acceptAtEnd⟩
              subject.positionAt? offset = some start → m.Visits (.initial p start) s →
                s.ip = stop.ip → offset < s.pos.offset)) ∧
        ∀ (t : Pattern) (p : Program), t.compile level = .ok p → p.FewRegisters →
          ∀ (c c' : Cursor), X.fragment level p c c' →
            ∀ (subject : Text) (acceptAtEnd : Bool) (offset : Nat) (start : Position)
              (s₀ s : State),
              let m : Machine := ⟨p, subject, acceptAtEnd⟩
              subject.positionAt? offset = some start → m.Visits (.initial p start) s₀ →
                s₀.ip = c.ip → m.Episode c'.ip s₀ s → s.ip = c'.ip →
                  s₀.pos.offset < s.pos.offset := by
  constructor
  · intro level X tree found
    rw [eq_relevel_of_withLevel level X tree found, mayBeEmpty_relevel level X]
  intro level X supported proper filled
  constructor
  · obtain ⟨p, compiles⟩ := (compile_ok_iff level X).2 supported
    obtain ⟨stop, compiled⟩ := compiled_of_compile compiles
    refine ⟨p, stop, compiles, compiled, ?_⟩
    intro few subject acceptAtEnd offset start s m found visits out
    obtain ⟨inside, rfl⟩ := Text.positionAt?_eq_some_iff.1 found
    -- in the program for this pattern alone, the whole run is an episode of its code
    have episode : m.Episode stop.ip (.initial p start) s := .of_visits compiled visits
    exact episode.offset_lt few proper filled compiled.code inside .refl rfl out
  · intro t p _ few c c' stands subject acceptAtEnd offset start s₀ s m found visits entry episode
      out
    -- anywhere else, the episode begins where the code is entered
    have inside : subject.start.Reaches start := (Text.positionAt?_eq_some_iff.1 found).1
    exact episode.offset_lt few proper filled stands inside visits entry out

/-- The branches `a|ab`, alone on the subject `ab` of which all is to be matched, and in front of
`c` on the subject `abc`. Both times they are left behind the first one at first. Since this is
refused there, the second one is resumed, and they are left behind it. -/
theorem mayBeEmpty_sound_of_branches :
    let alone : Machine := ⟨⟨#[.save 3, .matchText ['a'] .scalar, .branch 5,
      .matchText ['a'] .scalar, .matchText ['b'] .scalar, .accept], .empty, #[], 0⟩,
      ['a', 'b'], true⟩
    let inside : Machine := ⟨⟨#[.save 3, .matchText ['a'] .scalar, .branch 5,
      .matchText ['a'] .scalar, .matchText ['b'] .scalar, .matchText ['c'] .scalar, .accept],
      .empty, #[], 0⟩, ['a', 'b', 'c'], false⟩
    (leveled .anyScalar (some .scalar)).mayBeEmpty = (atom (.cls .anyScalar)).mayBeEmpty ∧
      (∃ s : State, alone.Visits (.initial alone.program ⟨0, ['a', 'b']⟩) s ∧ s.ip = 5 ∧
        s.stack = .empty ∧ 0 < s.pos.offset) ∧
      ∃ s : State, inside.Episode 5 (.initial inside.program ⟨0, ['a', 'b', 'c']⟩) s ∧ s.ip = 5 ∧
        s.stack = .empty ∧ 0 < s.pos.offset := by
  intro alone inside
  let a : Pattern := .atom (.char ['a'])
  let b : Pattern := .atom (.char ['b'])
  let branches : Pattern := .alternation [a, .concatenation [a, b]]
  let whole : Pattern := .concatenation [branches, .atom (.char ['c'])]
  have compiles : branches.compile .scalar = .ok alone.program := by decide +kernel
  have compiles' : whole.compile .scalar = .ok inside.program := by decide +kernel
  have few : alone.program.FewRegisters := ⟨by decide, by decide⟩
  have few' : inside.program.FewRegisters := ⟨by decide, by decide⟩
  have sound := mayBeEmpty_sound.2 .scalar branches (by decide) (by decide) (by decide)
  refine ⟨mayBeEmpty_sound.1 .scalar _ _ rfl, ?_, ?_⟩
  · obtain ⟨p, stop, found, compiled, runs⟩ := sound.1
    obtain rfl : p = alone.program := Except.ok.inj (found.symm.trans compiles)
    have last : stop.ip = 5 := Nat.succ.inj compiled.size.symm
    have visits : alone.Visits (.initial alone.program ⟨0, ['a', 'b']⟩)
        ⟨⟨5, ⟨2, []⟩, #[], #[]⟩, .empty⟩ :=
      .step (.step (.step (.step (.step (.step .refl rfl) rfl) rfl) rfl) rfl) rfl
    exact ⟨_, visits, rfl, rfl, runs few ['a', 'b'] true 0 _ _ rfl visits last.symm⟩
  · have stands : branches.fragment .scalar inside.program .start ⟨5, 0, 0⟩ :=
      ⟨⟨2, 0, 0⟩, rfl, ⟨⟨rfl, trivial⟩, rfl⟩, rfl, ⟨4, 0, 0⟩, ⟨⟨rfl, trivial⟩, rfl⟩,
        ⟨5, 0, 0⟩, ⟨⟨rfl, trivial⟩, rfl⟩, rfl⟩
    let start : Position := ⟨0, ['a', 'b', 'c']⟩
    -- nothing lies below the branches, so falling back below them would end the run
    have next {u v : State} (before : inside.Episode 5 (.initial inside.program start) u)
        (between : u.ip ≠ 5) (goes : inside.step u = .next v) :
        inside.Episode 5 (.initial inside.program start) v :=
      .step before between goes (goes ▸ Step.noConfusion)
    have first : inside.Episode 5 (.initial inside.program start)
        ⟨⟨5, ⟨1, ['b', 'c']⟩, #[], #[]⟩, .ofList [.resume ⟨3, start, #[], #[]⟩]⟩ :=
      next (next (next .enter (by decide) rfl) (by decide) rfl) (by decide) rfl
    have resumed : inside.Episode 5 (.initial inside.program start)
        ⟨⟨3, start, #[], #[]⟩, .empty⟩ :=
      .resume first rfl List.suffix_rfl (by decide) rfl
    have second : inside.Episode 5 (.initial inside.program start)
        ⟨⟨5, ⟨2, ['c']⟩, #[], #[]⟩, .empty⟩ :=
      next (next resumed (by decide) rfl) (by decide) rfl
    exact ⟨_, second, rfl, rfl, sound.2 whole inside.program compiles' few' .start ⟨5, 0, 0⟩ stands
      ['a', 'b', 'c'] false 0 start _ _ rfl .refl rfl second rfl⟩

end Pattern

end GraphemeRegex
