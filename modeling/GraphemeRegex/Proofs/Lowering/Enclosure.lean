import GraphemeRegex.Proofs.Lowering.Consuming
import GraphemeRegex.Proofs.Lowering.Safety

/-! # Enclosure — what a part of a pattern does to the checkpoint stack

The code of a part of a pattern leaves alone what was on the stack when it was entered, until it
falls back to it. What it leaves on top are places to resume from, and some parts leave nothing.

* `Machine.Episode`: the states of a run in some code, from its entry on.
* `Pattern.Part`: the parts of a pattern that have code.
* `Pattern.isSealed`: the parts that leave nothing on the stack.
* `Machine.Episode.obeys`: an episode keeps to the shapes of its code.
* `Pattern.episodes_enclosed`: every episode of every part of a compiled pattern.
-/

namespace GraphemeRegex

/-! ## Episodes -/

/-- The states of a machine in code that it enters in the state `s₀`. They last until control comes
to `stop`, or falls back to what was on the stack at the entry. Behind `stop`, they go on with what
a later failure resumes: an entry that was left above the stack of the entry, with what lies below
it. -/
inductive Machine.Episode (m : Machine) (stop : Nat) (s₀ : State) : State → Prop where
  | enter : m.Episode stop s₀ s₀
  | step {s t : State} (before : m.Episode stop s₀ s) (inside : s.ip ≠ stop)
    (next : m.step s = .next t) (above : m.step s ≠ s₀.stack.fallBack) : m.Episode stop s₀ t
  | resume {s t : State} {T : CheckpointStack} (before : m.Episode stop s₀ s) (out : s.ip = stop)
    (rest : T.entries <:+ s.stack.entries) (own : s₀.stack.depth < T.depth)
    (back : T.fallBack = .next t) : m.Episode stop s₀ t

/-- The places of code between two cursors that is left with a shape. -/
def Program.Places (p : Program) (c c' : Cursor) (σ : Shape) : Shaping :=
  p.Keeps (fun a => c.ip ≤ a ∧ a < c'.ip) fun a τ => a = c'.ip ∧ τ = σ

section Episodes

variable {m : Machine} {F : Fragment} {c c' : Cursor} {σ τ : Shape} {start : Position}
  {s₀ s : State} {a : Nat}

/-- The places of code lie between its ends. -/
theorem Program.Places.bounds {p : Program} (le : c.ip ≤ c'.ip) (place : p.Places c c' σ a τ) :
    c.ip ≤ a ∧ a ≤ c'.ip := by
  rcases Keeps.cases place with ⟨rfl, _⟩ | ⟨⟨low, high⟩, _⟩
  · exact ⟨le, Nat.le_refl _⟩
  · exact ⟨low, Nat.le_of_lt high⟩

/-- The end of the code is entered with one shape only. -/
theorem Program.Places.eq_shape {p : Program} (place : p.Places c c' σ c'.ip τ) : τ = σ := by
  rcases Keeps.cases place with ⟨_, same⟩ | ⟨⟨_, high⟩, _⟩
  · exact same
  · exact absurd high (Nat.lt_irrefl _)

namespace Machine.Episode

/-- A step of an episode comes to a place of the code, unless it falls back to the stack of the
entry. -/
theorem obeys_step (inside : s.ip ≠ c'.ip) (sized : s.Sized m.program)
    (obeys : s.Obeys (m.program.Places c c' σ) s₀.stack.entries) :
    (m.step s).Obeys (m.program.Places c c' σ) s₀.stack.entries := by
  obtain ⟨τ, place, shaped⟩ := obeys
  rcases Program.Keeps.cases place with ⟨out, _⟩ | ⟨_, i, code, follows⟩
  · exact absurd out inside
  · rw [step_of_code code]
    exact obeys_execute follows sized shaped

/-- An entry that an episode has left is resumed at a place of the code, above the stack of the
entry. -/
theorem obeys_resume {t : State} {T : CheckpointStack} (bare : σ = [] ∨ σ = [.floor])
    (out : s.ip = c'.ip) (obeys : s.Obeys (m.program.Places c c' σ) s₀.stack.entries)
    (rest : T.entries <:+ s.stack.entries) (own : s₀.stack.depth < T.depth)
    (back : T.fallBack = .next t) :
    t.Obeys (m.program.Places c c' σ) s₀.stack.entries ∧
      .resume t.toSnapshot ∈ s.stack.entries ∧ ∀ e ∈ t.stack.entries, e ∈ s.stack.entries := by
  obtain ⟨τ, place, shaped⟩ := obeys
  rw [out] at place
  obtain rfl := place.eq_shape
  rw [s₀.stack.depth_eq, T.depth_eq] at own
  rcases bare with rfl | rfl
  · have left := shaped.of_suffix rest (Nat.le_of_lt own)
    generalize entries : T.entries = l at left
    cases left with
    | base =>
      rw [entries] at own
      exact absurd own (Nat.lt_irrefl _)
    | @left saved _ l _ place' below =>
      obtain rfl := CheckpointStack.eq_push entries
      cases back
      refine ⟨⟨[], place', below⟩, rest.mem List.mem_cons_self, ?_⟩
      intro e mem
      exact rest.mem (List.mem_cons_of_mem _ mem)
  · -- nothing was left above the stack of the entry
    have same : s.stack.entries = s₀.stack.entries := shaped.eq_base
    rw [same] at rest
    exact absurd rest.length_le (Nat.not_le.2 own)

/-- An episode keeps to the shapes of its code, and its data fits. -/
theorem obeys (keeps : F.Keeps σ) (stands : F m.program c c') (bare : σ = [] ∨ σ = [.floor])
    (fits : s₀.Fits m start.Reaches) (entry : s₀.ip = c.ip) (h : m.Episode c'.ip s₀ s) :
    s.Fits m start.Reaches ∧ s.Obeys (m.program.Places c c' σ) s₀.stack.entries := by
  induction h with
  | enter =>
    -- the code is entered at one of its places
    have place : m.program.Places c c' σ c.ip σ :=
      keeps m.program c c' stands _ (fun a low high => ⟨low, high⟩) _ (.of_exit ⟨rfl, rfl⟩)
    refine ⟨fits, σ, entry ▸ place, ?_⟩
    rcases bare with rfl | rfl
    · exact .base
    · exact .floor
  | step _ inside next above ih =>
    -- a step that stays above the stack of the entry comes to another place
    have step := obeys_step inside ih.1.sized ih.2
    rw [next] at step above
    rw [← s₀.stack.ofList_entries] at above
    exact ⟨ih.1.onward next, step.resolve_right above⟩
  | @resume s t T _ out rest own back ih =>
    obtain ⟨obeys, now, saved⟩ := obeys_resume bare out ih.2 rest own back
    exact ⟨⟨ih.1.saved _ now, fun e mem => ih.1.saved e (saved e mem)⟩, obeys⟩

/-- Where an episode has not come to its end, the next step goes on, or it falls back to the stack
of the entry. -/
theorem step_cases (inner : ∃ i, m.program.code[s.ip]? = some i ∧ i ≠ .accept)
    (before : m.Episode c'.ip s₀ s) (inside : s.ip ≠ c'.ip) (sized : s.Sized m.program)
    (obeys : s.Obeys (m.program.Places c c' σ) s₀.stack.entries) :
    (∃ t, m.step s = .next t ∧ m.Episode c'.ip s₀ t) ∨ m.step s = s₀.stack.fallBack := by
  by_cases falls : m.step s = s₀.stack.fallBack
  · exact .inr falls
  have step := obeys_step inside sized obeys
  cases result : m.step s with
  | next t => exact .inl ⟨t, rfl, .step before inside result falls⟩
  | fault f =>
    rw [result] at step
    exact absurd step id
  | halt r =>
    rcases halt_of_step result with ⟨rfl, empty⟩ | ⟨accept, _⟩
    · -- where nothing is left to resume from, the stack of the entry has nothing, either
      obtain ⟨τ, _, shaped⟩ := obeys
      have nothing := shaped.unwind_base empty
      rw [CheckpointStack.ofList_entries] at nothing
      exact .inr (CheckpointStack.fallBack_of_unwind nothing).symm
    · obtain ⟨i, code, other⟩ := inner
      rw [accept, Option.some.injEq] at code
      exact absurd code.symm other

end Machine.Episode

end Episodes

/-! ## Parts of patterns -/

namespace Fragment

variable {F : Fragment} {Fs : List Fragment} {p : Program} {c c' : Cursor}

/-- The fragment stands somewhere between two cursors. -/
def Somewhere (F : Fragment) (p : Program) (c c' : Cursor) : Prop :=
  ∃ d d', c.ip ≤ d.ip ∧ F p d d' ∧ d'.ip ≤ c'.ip

/-- Wider cursors hold what narrower ones hold. -/
theorem Somewhere.mono {b b' : Cursor} (h : F.Somewhere p c c') (low : b.ip ≤ c.ip)
    (high : c'.ip ≤ b'.ip) : F.Somewhere p b b' := by
  obtain ⟨d, d', first, stands, last⟩ := h
  exact ⟨d, d', Nat.le_trans low first, stands, Nat.le_trans last high⟩

/-- An item of a sequence stands in it. -/
theorem somewhere_of_all (forward : ∀ G ∈ Fs, G.Forward) (mem : F ∈ Fs) (h : all Fs p c c') :
    F.Somewhere p c c' := by
  induction Fs generalizing c with
  | nil => exact absurd mem List.not_mem_nil
  | cons G Fs ih =>
    obtain ⟨middle, first, later⟩ := h
    have onward : ∀ H ∈ Fs, H.Forward := fun H mem => forward H (List.mem_cons_of_mem G mem)
    rcases List.mem_cons.1 mem with rfl | mem
    · exact ⟨c, middle, Nat.le_refl _, first, (forward_all onward p middle c' later).ip⟩
    · have before : c.ip ≤ middle.ip := (forward G List.mem_cons_self p c middle first).ip
      exact (ih onward mem later).mono before (Nat.le_refl _)

/-- A branch stands among the others. -/
theorem somewhere_of_branches {done : Nat} (forward : ∀ G ∈ Fs, G.Forward) (mem : F ∈ Fs)
    (h : branches done Fs p c c') : F.Somewhere p c c' := by
  induction Fs generalizing c with
  | nil => exact absurd mem List.not_mem_nil
  | cons G Fs ih =>
    cases Fs with
    | nil =>
      obtain rfl := List.mem_singleton.1 mem
      exact ⟨c, c', Nat.le_refl _, h, Nat.le_refl _⟩
    | cons H Fs =>
      obtain ⟨last, _, body, _, others⟩ := h
      have onward : ∀ K ∈ H :: Fs, K.Forward := fun K mem => forward K (List.mem_cons_of_mem G mem)
      have between : c.ip + 1 ≤ last.ip := (forward G List.mem_cons_self p _ last body).ip
      -- behind a branch and its jump come the others
      have behind : last.ip + 1 ≤ c'.ip := (forward_branches done onward p _ c' others).ip
      rcases List.mem_cons.1 mem with rfl | mem
      · exact ⟨_, last, Nat.le_succ _, body, by omega⟩
      · refine (ih onward mem others).mono ?_ (Nat.le_refl _)
        show c.ip ≤ last.ip + 1
        omega

/-- The body of a loop stands in it. -/
theorem somewhere_of_repeated {amount : Amount} {greed : Greed} {mayBeEmpty : Bool}
    (h : repeated amount greed mayBeEmpty F p c c') : F.Somewhere p c c' := by
  obtain ⟨_, required, pass, optional, first, last, stands⟩ := h
  have begun : c.ip ≤ required := stands.prologue.le
  have asked : required ≤ pass := stands.requirement.le
  have entered : pass ≤ first.ip := stands.passHead.le
  have passed : last.ip ≤ optional := stands.passTail.le
  have decided : optional ≤ c'.ip := stands.policy.le
  exact ⟨first, last, by omega, stands.body, by omega⟩

/-- The body of a group stands in it. -/
theorem somewhere_of_group {kind : GroupKind} (h : kind.fragment F p c c') :
    F.Somewhere p c c' := by
  cases kind with
  | capture | named _ | nonCapture | branchReset | options _ _ =>
    exact ⟨c, c', Nat.le_refl _, h, Nat.le_refl _⟩
  | atomic | lookahead =>
    obtain ⟨_, ⟨_, rfl⟩, last, body, _, rfl⟩ := h
    exact ⟨_, last, Nat.le_succ _, body, Nat.le_succ _⟩
  | negativeLookahead =>
    obtain ⟨_, ⟨_, rfl⟩, last, body, _, rfl⟩ := h
    exact ⟨_, last, Nat.le_add_right _ _, body, Nat.le_add_right _ _⟩
  | nonAtomicLookahead | lookbehind | negativeLookbehind | nonAtomicLookbehind | scriptRun
  | atomicScriptRun => exact absurd h id

end Fragment

namespace Pattern

/-- The parts of a pattern that have code of their own, as long as they are supported. The body of a
repetition that makes no pass has none. -/
inductive Part (X : Pattern) : Pattern → Prop where
  | whole : Part X X
  | branch {t : Pattern} {branches : List Pattern} (part : Part X t) (mem : t ∈ branches) :
    Part X (alternation branches)
  | item {t : Pattern} {items : List Pattern} (part : Part X t) (mem : t ∈ items) :
    Part X (concatenation items)
  | inGroup {t : Pattern} {kind : GroupKind} (part : Part X t) : Part X (group kind t)
  | inTransformed {t : Pattern} {transform : Transform} {kind : GroupKind} (part : Part X t) :
    Part X (transformed transform kind t)
  | pass {t : Pattern} {amount : Amount} {greed : Greed} (part : Part X t)
    (passes : amount.isDegenerate = false) : Part X (repetition amount greed t)

/-- The parts that leave nothing on the stack, so that nothing in them is resumed later. -/
def isSealed : Pattern → Bool
  | group .atomic _ | group .lookahead _ | group .negativeLookahead _ => true
  | repetition _ .possessive _ => true
  | _ => false

variable {level : MatchLevel} {t X : Pattern} {p : Program} {c c' : Cursor}

/-- The code of a list of patterns is that of each. -/
theorem fragment_mem_fragments {ts : List Pattern} (mem : t ∈ ts) :
    t.fragment level ∈ fragments level ts := by
  induction ts with
  | nil => exact absurd mem List.not_mem_nil
  | cons u ts ih =>
    rcases List.mem_cons.1 mem with rfl | mem
    · exact List.mem_cons_self
    · exact List.mem_cons_of_mem _ (ih mem)

/-- The code of a part stands in the code of the whole. -/
theorem Part.somewhere (part : X.Part t) (h : t.fragment level p c c') :
    (X.fragment level).Somewhere p c c' := by
  induction part generalizing c c' with
  -- by induction on the way down from the whole to the part
  | whole => exact ⟨c, c', Nat.le_refl _, h, Nat.le_refl _⟩
  | @branch t branches _ mem ih =>
    obtain ⟨d, d', low, stands, high⟩ := Fragment.somewhere_of_branches
      (fragments_forward level branches) (fragment_mem_fragments mem) h
    exact (ih stands).mono low high
  | @item t items _ mem ih =>
    obtain ⟨d, d', low, stands, high⟩ := Fragment.somewhere_of_all
      (fragments_forward level items) (fragment_mem_fragments mem) h
    exact (ih stands).mono low high
  | inGroup _ ih =>
    obtain ⟨d, d', low, stands, high⟩ := Fragment.somewhere_of_group h
    exact (ih stands).mono low high
  | inTransformed _ ih => exact ih h
  | pass _ passes ih =>
    rw [fragment, if_neg (by simp [passes])] at h
    obtain ⟨d, d', low, stands, high⟩ := Fragment.somewhere_of_repeated h
    exact (ih stands).mono low high

/-- The code of a sealed part leaves any shape as it found it. -/
theorem fragment_keeps_of_isSealed (locked : X.isSealed = true) (σ : Shape) :
    (X.fragment level).Keeps σ := by
  have forward (body : Pattern) := fragment_forward level body
  have keeps (body : Pattern) := fragment_keeps level body
  unfold isSealed at locked
  split at locked
  · rename_i body
    exact Fragment.keeps_fenced false (keeps body _ rfl) (forward body)
  · rename_i body
    exact Fragment.keeps_fenced true (keeps body _ rfl) (forward body)
  · rename_i body
    exact Fragment.keeps_negated (keeps body _ rfl) (forward body)
  · rename_i amount body
    rw [fragment]
    -- a possessive loop without passes has no code at all
    by_cases degenerate : amount.isDegenerate = true
    · rw [if_pos degenerate]
      exact Fragment.keeps_nothing
    · rw [if_neg degenerate]
      exact Fragment.keeps_repeated amount .possessive _ (keeps body) (forward body)
        fun other => absurd rfl other
  · cases locked

/-! ## Episodes of parts -/

/-- Every part of a compiled pattern that has code has it somewhere in the program. Wherever the
code of a part stands, consider a run that enters it, and what the run does there until control
comes behind the code or falls back to what was on the stack at the entry; also when one of the
entries that the part has left on the stack is resumed.

Control stays in the code, and the stack of the entry stays below. Behind the code, there is nothing
else on the stack but places to resume from in the code, and nothing at all if the part is sealed.
Inside, the next step goes on in the same way; if it does not, the part has failed, and the run goes
on at the latest place to resume from at the entry, or ends without a match where there is none. -/
theorem episodes_enclosed (compiled : t.compile level = .ok p) :
    (∀ X : Pattern, X.Part t → ∃ c c', X.fragment level p c c' ∧ c'.ip < p.size) ∧
      ∀ (X : Pattern) (c c' : Cursor), X.fragment level p c c' →
        ∀ (subject : Text) (acceptAtEnd : Bool) (start : Position) (s₀ s : State),
          let m : Machine := ⟨p, subject, acceptAtEnd⟩
          m.Visits (.initial p start) s₀ → s₀.ip = c.ip → m.Episode c'.ip s₀ s →
            (c.ip ≤ s.ip ∧ s.ip ≤ c'.ip) ∧ s₀.stack.entries <:+ s.stack.entries ∧
            (s.ip = c'.ip → s₀.stack.Leaves c.ip c'.ip s.stack ∧
              (X.isSealed = true → s.stack = s₀.stack)) ∧
            (s.ip ≠ c'.ip → (∃ t, m.step s = .next t ∧ m.Episode c'.ip s₀ t) ∨
              m.step s = s₀.stack.fallBack) := by
  obtain ⟨stop, whole⟩ := compiled_of_compile compiled
  constructor
  · intro X part
    obtain ⟨c, c', _, stands, high⟩ := part.somewhere whole.code
    have size : p.size = stop.ip + 1 := whole.size
    exact ⟨c, c', stands, by omega⟩
  intro X c c' stands subject acceptAtEnd start s₀ s m visits entry episode
  have le : c.ip ≤ c'.ip := (fragment_forward level X p c c' stands).ip
  have fits₀ : s₀.Fits m start.Reaches := State.fits_of_visits visits
  obtain ⟨fits, obeys⟩ :=
    episode.obeys (fragment_keeps level X [] rfl) stands (.inl rfl) fits₀ entry
  obtain ⟨τ, place, shaped⟩ := obeys
  have bounds := place.bounds le
  refine ⟨bounds, shaped.suffix, ?_, ?_⟩
  · intro out
    constructor
    · rw [out] at place
      obtain rfl := place.eq_shape
      obtain ⟨left, split, places⟩ := shaped.exists_left
      refine ⟨left, split, ?_⟩
      intro e mem
      obtain ⟨saved, resume, place'⟩ := places e mem
      exact ⟨saved, resume, place'.bounds le⟩
    · intro locked
      -- a sealed part also keeps a shape on top of which nothing may be left
      obtain ⟨_, _, place', shaped'⟩ :=
        episode.obeys (fragment_keeps_of_isSealed locked [.floor]) stands (.inr rfl) fits₀ entry
      rw [out] at place'
      obtain rfl := place'.eq_shape
      exact CheckpointStack.ext shaped'.eq_base
  · intro inside
    obtain ⟨i, code, inner⟩ := fragment_inner level X p c c' stands s.ip bounds.1 (by omega)
    refine episode.step_cases ⟨i, code, ?_⟩ inside fits.sized ⟨τ, place, shaped⟩
    rintro rfl
    cases inner

/-- In the subject `a`, the possessive loop `a*+` is left behind its first pass, when the second one
has failed: nothing of it remains on the stack. -/
theorem enclosed_possessive_loop :
    let m : Machine := ⟨⟨#[.savePlaceholder, .branch 5, .fence, .matchText ['a'] .scalar,
      .cut false, .clear, .split 2 7, .accept], .empty, #[], 0⟩, ['a'], false⟩
    ∃ s : State, m.Episode 7 (.initial m.program ⟨0, ['a']⟩) s ∧ s.ip = 7 ∧ s.pos.offset = 1 ∧
      s.stack = .empty := by
  intro m
  let loop : Pattern := .repetition .zeroOrMore .possessive (.atom (.char ['a']))
  have compiled : loop.compile .scalar = .ok m.program := by decide +kernel
  obtain ⟨stop, whole⟩ := compiled_of_compile compiled
  have last : stop.ip = 7 := Nat.succ.inj whole.size.symm
  let s : State := ⟨⟨7, ⟨1, []⟩, #[], #[]⟩, .empty⟩
  -- nothing lies below the loop, so falling back below it would end the run
  have next {u v : State} (before : m.Episode 7 (.initial m.program ⟨0, ['a']⟩) u)
      (inside : u.ip ≠ 7) (goes : m.step u = .next v) :
      m.Episode 7 (.initial m.program ⟨0, ['a']⟩) v :=
    .step before inside goes (goes ▸ Step.noConfusion)
  have split : m.Episode 7 (.initial m.program ⟨0, ['a']⟩)
      ⟨⟨2, ⟨0, ['a']⟩, #[], #[]⟩, .ofList [.resume ⟨7, ⟨0, ['a']⟩, #[], #[]⟩]⟩ :=
    next (next (next (next .enter (by decide) rfl) (by decide) rfl) (by decide) rfl) (by decide) rfl
  have passed : m.Episode 7 (.initial m.program ⟨0, ['a']⟩)
      ⟨⟨5, ⟨1, []⟩, #[], #[]⟩, .ofList [.resume ⟨7, ⟨0, ['a']⟩, #[], #[]⟩]⟩ :=
    next (next (next split (by decide) rfl) (by decide) rfl) (by decide) rfl
  have again : m.Episode 7 (.initial m.program ⟨0, ['a']⟩)
      ⟨⟨3, ⟨1, []⟩, #[], #[]⟩,
        .ofList [.fence ⟨2, ⟨1, []⟩, #[], #[]⟩, .resume ⟨7, ⟨1, []⟩, #[], #[]⟩]⟩ :=
    next (next (next passed (by decide) rfl) (by decide) rfl) (by decide) rfl
  have episode : m.Episode 7 (.initial m.program ⟨0, ['a']⟩) s := next again (by decide) rfl
  have enclosed := (episodes_enclosed compiled).2 loop .start stop whole.code ['a'] false ⟨0, ['a']⟩
    _ s .refl rfl (last ▸ episode)
  exact ⟨s, episode, rfl, rfl, (enclosed.2.2.1 last.symm).2 rfl⟩

end Pattern

end GraphemeRegex
