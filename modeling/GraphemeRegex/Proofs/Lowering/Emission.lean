import GraphemeRegex.Proofs.Lowering.Fragment
import GraphemeRegex.Proofs.Pattern.Releveling

/-! # Emission — compiling writes the code of the pattern

Every emitter of the compiler writes its fragment and leaves no label without a place. So the
builder refuses nothing, and a compiled program holds the code of its pattern.

* `Emitter.Writes`: an emitter writes a fragment into any builder.
* `Pattern.writes_emit`: the emitter of a leveled pattern writes the code of the pattern.
* `Pattern.Compiled`: what is known of a compiled program.
* `Pattern.compile_cases`: compiling makes such a program, unless the pattern has no code.
-/

namespace GraphemeRegex

open Builder

namespace Emitter

/-- Into any builder, the emitter writes the fragment and places all the labels it makes. -/
def Writes (e : Emitter Unit) (F : Fragment) : Prop :=
  ∀ b : Builder, e.Yields b fun _ b' => b.Drafts b' [] fun p _ => F p b.cursor b'.cursor

variable {e e' : Emitter Unit} {F G : Fragment}

/-! ## Straight code -/

theorem writes_nothing : (pure () : Emitter Unit).Writes .nothing := by
  intro b
  refine yields_pure ((Drafts.refl b).imp ?_)
  intro _ _ _ _
  rfl

/-- Who refuses writes whatever is asked for, since it never ends. -/
theorem writes_refuse (construct : String) (F : Fragment) : (refuse construct).Writes F :=
  fun _ => yields_refuse construct _

/-- Emitters one after the other write their fragments one behind the other. -/
theorem Writes.append (h : e.Writes F) (h' : e'.Writes G) :
    (e >>= fun _ => e').Writes (F.append G) := by
  intro b
  refine (h b).bind ?_
  intro _ b₁ d
  refine (h' b₁).imp ?_
  intro _ b₂ d'
  refine (d.append d').imp ?_
  rintro p place _ ⟨first, second⟩
  exact ⟨b₁.cursor, first, second⟩

/-- Instructions without jumps and registers. -/
theorem writes_code {l : List (Instruction Label)} {l' : List (Instruction Nat)}
    (free : ∀ i ∈ l, i.targets = [] ∧ i.counters = [] ∧ i.marks = [])
    (same : ∀ place, l.map (·.mapTargets place) = l') : (emitList l).Writes (.code l') := by
  intro b
  have allowed (i : Instruction Label) (mem : i ∈ l) : b.Allows i := allows_of_free (free i mem)
  refine ((Drafts.refl b).yields_emitList allowed).imp ?_
  rintro _ b' ⟨_, cursor, d⟩
  refine d.imp ?_
  intro p place _ facts
  rw [Fragment.code, ← same place, List.length_map]
  exact ⟨facts.2.1, cursor⟩

/-- One instruction that means the same wherever labels are placed. -/
theorem writes_emit {i : Instruction Label} {j : Instruction Nat}
    (free : i.targets = [] ∧ i.counters = [] ∧ i.marks = [])
    (same : ∀ place, i.mapTargets place = j) : (emit i).Writes (.code [j]) := by
  rw [← emitList_singleton]
  refine writes_code ?_ ?_
  · intro k mem
    rw [List.mem_singleton.1 mem]
    exact free
  · intro place
    simp [same place]

/-- A text is interned before its instruction is written, which refers to it. -/
theorem writes_string (text : Text) (level : MatchLevel) :
    (emitString text level).Writes (.string text level) := by
  intro b
  have interned := drafts_intern b text
  -- the instruction has no labels and no registers
  have allowed : ∀ i ∈ [Instruction.matchString (b.intern text).1 level],
      (b.intern text).2.Allows i := by
    intro i mem
    rw [List.mem_singleton.1 mem]
    exact allows_of_free ⟨rfl, rfl, rfl⟩
  have written := drafts_code (b.intern text).2 allowed
  refine yields_emitString ?_
  have d := interned.append written
  simp only [Array.append_singleton] at d
  refine d.imp ?_
  intro p place _ facts
  refine ⟨(b.intern text).1, facts.1, facts.2, ?_⟩
  simp [cursor, Cursor.advance, Builder.emitString, Builder.intern]

/-! ## Groups -/

/-- What is fenced stands between a fence and a cut. -/
theorem writes_fenced (rewind : Bool) (h : e.Writes F) :
    (do
      emit .fence
      e
      emit (.cut rewind)).Writes (F.fenced rewind) := by
  have fence : (emit .fence).Writes (.code [.fence]) := writes_emit (by decide) fun _ => rfl
  have cut : (emit (.cut rewind)).Writes (.code [.cut rewind]) :=
    writes_emit ⟨rfl, rfl, rfl⟩ fun _ => rfl
  exact fence.append (h.append cut)

/-- In a negative lookahead, the label behind it is placed last. -/
theorem writes_negated (h : e.Writes F) :
    (do
      let pass ← newLabel
      emitList [.save pass, .fence]
      e
      emitList [.cut false, .clear, .fail]
      place pass).Writes F.negated := by
  intro b
  refine (Drafts.refl b).yields_newLabel.bind ?_
  rintro pass b₁ ⟨index, size, cursor₁, d₁⟩
  have save : ∀ i ∈ [Instruction.save pass, .fence], b₁.Allows i := by
    have known : ∀ a ∈ [pass], a.index < b₁.labels.size := by
      simp [index, size]
    have jump : b₁.Allows (.save pass) := allows_of_targets rfl rfl known
    have fence : b₁.Allows .fence := allows_of_free ⟨rfl, rfl, rfl⟩
    simpa using And.intro jump fence
  have fail (b' : Builder) : ∀ i ∈ [Instruction.cut false, .clear, .fail], b'.Allows i := by
    simpa using And.intro (allows_of_free ⟨rfl, rfl, rfl⟩)
      (And.intro (allows_of_free ⟨rfl, rfl, rfl⟩) (allows_of_free ⟨rfl, rfl, rfl⟩))
  refine (d₁.yields_emitList save).bind ?_
  rintro _ b₂ ⟨_, cursor₂, d₂⟩
  refine (h b₂).bind ?_
  intro _ b₃ d₃
  refine ((d₂.append d₃).yields_emitList (fail b₃)).bind ?_
  rintro _ b₄ ⟨_, cursor₄, d₄⟩
  refine (d₄.yields_place List.not_mem_nil).imp ?_
  rintro _ b₅ ⟨_, cursor₅, d₅⟩
  refine d₅.imp ?_
  intro p place _ facts
  -- the saved checkpoint resumes where the label was placed, behind all of the code
  rcases facts with ⟨⟨⟨⟨_, head, _⟩, body⟩, tail, _⟩, placed⟩
  rw [cursor₁] at head cursor₂
  rw [← cursor₅] at placed
  refine ⟨b₂.cursor, ⟨?_, cursor₂⟩, b₃.cursor, body, tail, ?_⟩
  · rw [← placed]
    exact head
  · rw [cursor₅, cursor₄]
    rfl

/-! ## Branches -/

/-- Into any builder that made `done`, the emitter writes branches that jump to it. -/
def WritesBranches (done : Label) (e : Emitter Unit) (Fs : List Fragment) : Prop :=
  ∀ b : Builder, done.index < b.labels.size → e.Yields b fun _ b' =>
    b.Drafts b' [] fun p place => Fragment.branches (place done) Fs p b.cursor b'.cursor

/-- Each branch but the last one saves where the next one begins, and jumps behind all of them. -/
theorem writesBranches_cons {done : Label} {Fs : List Fragment} (h : e.Writes F)
    (h' : e'.WritesBranches done (G :: Fs)) :
    (do
      let next ← newLabel
      emit (.save next)
      e
      emit (.branch done)
      place next
      e').WritesBranches done (F :: G :: Fs) := by
  intro b known
  refine (Drafts.refl b).yields_newLabel.bind ?_
  rintro next b₁ ⟨index, size, cursor₁, d₁⟩
  have save : ∀ i ∈ [Instruction.save next], b₁.Allows i := by
    have known : ∀ a ∈ [next], a.index < b₁.labels.size := by
      simp [index, size]
    have jump : b₁.Allows (.save next) := allows_of_targets rfl rfl known
    simpa using jump
  rw [← emitList_singleton]
  refine (d₁.yields_emitList save).bind ?_
  rintro _ b₂ ⟨grows₂, cursor₂, d₂⟩
  refine (h b₂).bind ?_
  intro _ b₃ d₃
  have inside : done.index < b₃.labels.size := by
    have := grows₂.labels
    have := d₃.grows.labels
    omega
  have branch : ∀ i ∈ [Instruction.branch done], b₃.Allows i := by
    have known : ∀ a ∈ [done], a.index < b₃.labels.size := by
      simpa using inside
    have jump : b₃.Allows (.branch done) := allows_of_targets rfl rfl known
    simpa using jump
  rw [← emitList_singleton]
  refine ((d₂.append d₃).yields_emitList branch).bind ?_
  rintro _ b₄ ⟨grows₄, cursor₄, d₄⟩
  refine (d₄.yields_place List.not_mem_nil).bind ?_
  rintro _ b₅ ⟨grows₅, cursor₅, d₅⟩
  have inside₅ : done.index < b₅.labels.size :=
    Nat.lt_of_lt_of_le inside (grows₄.trans grows₅).labels
  refine (h' b₅ inside₅).imp ?_
  intro _ b₆ d₆
  refine (d₅.append d₆).imp ?_
  intro p place _ facts
  -- the next branch begins right behind the jump to `done`
  rcases facts with ⟨⟨⟨⟨⟨_, head, _⟩, body⟩, tail, _⟩, placed⟩, later⟩
  have next_eq : place next = b₃.cursor.ip + 1 := by
    rw [placed, cursor₄]
    rfl
  rw [cursor₂, cursor₁] at body
  rw [cursor₅, cursor₄] at later
  rw [cursor₁] at head
  refine ⟨b₃.cursor, ?_, body, tail.1, later⟩
  rw [← next_eq]
  exact head.1

/-- The branches all jump to a label that is placed behind them. -/
theorem writes_alternation {branches : Label → Emitter Unit} {Fs : List Fragment}
    (h : ∀ done, (branches done).WritesBranches done Fs) :
    (do
      let done ← newLabel
      branches done
      place done).Writes (.alternation Fs) := by
  intro b
  refine (Drafts.refl b).yields_newLabel.bind ?_
  rintro done b₁ ⟨index, size, cursor₁, d₁⟩
  refine (h done b₁ (by omega)).bind ?_
  intro _ b₂ d₂
  refine ((d₁.append d₂).yields_place List.not_mem_nil).imp ?_
  rintro _ b₃ ⟨_, cursor₃, d₃⟩
  refine d₃.imp ?_
  intro p place _ facts
  rcases facts with ⟨⟨_, body⟩, placed⟩
  rw [Fragment.alternation, cursor₃, ← placed, ← cursor₁]
  exact body

/-! ## Loops -/

/-- The segments of a loop are written behind its labels and registers. -/
theorem yields_loop {a b : Builder} {facts : Facts} {l : Loop}
    {required pass optional exit : Label}
    (d : a.Drafts b [required, pass, optional, exit] facts)
    (differ : [required, pass, optional, exit].Nodup)
    (within : l.registers.Within b.counters.size b.marks) (h : e.Writes F) :
    (l.emit e required pass optional exit).Yields b fun _ b' =>
      a.Drafts b' [] fun p place => facts p place ∧ ∃ first last : Cursor,
        l.Stands F p b.cursor b'.cursor (place required) (place pass) (place optional)
          first last := by
  obtain ⟨fresh₁, fresh₂, fresh₃, _⟩ :
      required ∉ [pass, optional, exit] ∧ pass ∉ [optional, exit] ∧ optional ∉ [exit] ∧ True := by
    simpa using differ
  have allows {i : Instruction Label} {targets : List Label} {b' : Builder}
      (uses : l.Uses targets i) (grows : b.Grows b')
      (sub : ∀ label ∈ targets, label ∈ [required, pass, optional, exit]) : b'.Allows i :=
    (uses.allows within fun label mem => d.index_lt (sub label mem)).mono grows
  -- the labels and registers are there before the first segment, and a builder only grows
  unfold Loop.emit
  refine (d.yields_emitList fun i mem => allows (l.uses_prologue i mem) (.refl _) (by simp)).bind ?_
  rintro _ b₁ ⟨grows₁, cursor₁, d₁⟩
  refine (d₁.yields_place fresh₁).bind ?_
  rintro _ b₂ ⟨grows₂, cursor₂, d₂⟩
  have grows := grows₁.trans grows₂
  refine (d₂.yields_emitList fun i mem =>
    allows (l.uses_requirement optional i mem) grows (by simp)).bind ?_
  rintro _ b₃ ⟨grows₃, cursor₃, d₃⟩
  refine (d₃.yields_place fresh₂).bind ?_
  rintro _ b₄ ⟨grows₄, cursor₄, d₄⟩
  replace grows := grows.trans (grows₃.trans grows₄)
  refine (d₄.yields_emitList fun i mem => allows (l.uses_passHead i mem) grows (by simp)).bind ?_
  rintro _ b₅ ⟨grows₅, cursor₅, d₅⟩
  refine (h b₅).bind ?_
  intro _ b₆ body
  replace grows := grows.trans (grows₅.trans body.grows)
  refine ((d₅.append body).yields_emitList fun i mem =>
    allows (l.uses_passTail required i mem) grows (by simp)).bind ?_
  rintro _ b₇ ⟨grows₇, cursor₇, d₇⟩
  refine (d₇.yields_place fresh₃).bind ?_
  rintro _ b₈ ⟨grows₈, cursor₈, d₈⟩
  replace grows := grows.trans (grows₇.trans grows₈)
  refine (d₈.yields_emitList fun i mem =>
    allows (l.uses_policy pass exit i mem) grows (by simp)).bind ?_
  rintro _ b₉ ⟨_, cursor₉, d₉⟩
  refine (d₉.yields_place List.not_mem_nil).imp ?_
  rintro _ b₁₀ ⟨_, cursor₁₀, d₁₀⟩
  refine d₁₀.imp ?_
  intro p place _ written
  -- what was written, with the places of the labels in it
  obtain ⟨⟨⟨⟨⟨⟨⟨⟨⟨⟨old, prologue⟩, at_required⟩, requirement⟩, at_pass⟩, passHead⟩, body⟩,
    passTail⟩, at_optional⟩, policy⟩, at_exit⟩ := written
  rw [l.map_prologue, ← at_required] at prologue
  rw [l.map_requirement, cursor₂, ← at_required, ← at_pass] at requirement
  rw [l.map_passHead, cursor₄, ← at_pass] at passHead
  rw [l.map_passTail, ← at_optional] at passTail
  rw [l.map_policy, cursor₈, ← at_optional, at_exit, ← cursor₁₀] at policy
  refine ⟨old, b₅.cursor, b₆.cursor, ?_⟩
  exact {
    prologue := prologue
    requirement := requirement
    passHead := passHead
    first_counters := by simp [cursor₅, cursor₄, cursor₃, cursor₂, cursor₁]
    first_marks := by simp [cursor₅, cursor₄, cursor₃, cursor₂, cursor₁]
    body := body
    passTail := passTail
    policy := policy
    last_counters := by simp [cursor₁₀, cursor₉, cursor₈, cursor₇]
    last_marks := by simp [cursor₁₀, cursor₉, cursor₈, cursor₇] }

/-- A loop writes its segments, with the four labels between them. -/
theorem writes_repeated (amount : Amount) (greed : Greed) (mayBeEmpty : Bool) (h : e.Writes F) :
    (emitLoop amount greed mayBeEmpty e).Writes (.repeated amount greed mayBeEmpty F) := by
  intro b
  rw [emitLoop_eq]
  -- four labels, in the order in which they will be placed
  refine (Drafts.refl b).yields_newLabel.bind ?_
  rintro required b₁ ⟨index₁, size₁, cursor₁, d₁⟩
  refine d₁.yields_newLabel.bind ?_
  rintro pass b₂ ⟨index₂, size₂, cursor₂, d₂⟩
  refine d₂.yields_newLabel.bind ?_
  rintro optional b₃ ⟨index₃, size₃, cursor₃, d₃⟩
  refine d₃.yields_newLabel.bind ?_
  rintro exit b₄ ⟨index₄, size₄, cursor₄, d₄⟩
  refine (d₄.yields_allocate amount mayBeEmpty).bind ?_
  rintro registers b₅ ⟨rfl, _, cursor₅, d₅⟩
  have cursors : b₄.cursor = b.cursor := by
    rw [cursor₄, cursor₃, cursor₂, cursor₁]
  rw [cursors] at cursor₅ d₅ ⊢
  have differ : [required, pass, optional, exit].Nodup := by
    have apart {x y : Label} (h : x.index ≠ y.index) : x ≠ y := fun same => h (by rw [same])
    simp only [List.nodup_cons, List.mem_cons, List.not_mem_nil, or_false, not_or,
      not_false_eq_true, List.nodup_nil, and_true]
    refine ⟨⟨?_, ?_, ?_⟩, ⟨?_, ?_⟩, ?_⟩ <;> exact apart (by omega)
  have within := LoopRegisters.numbered_within amount mayBeEmpty b.cursor
  rw [← cursor₅] at within
  refine (yields_loop d₅ differ within h).imp ?_
  intro _ b₆ d₆
  refine d₆.imp ?_
  intro p place _ facts
  rcases facts with ⟨⟨_, held⟩, first, last, stands⟩
  rw [cursor₅] at stands
  exact ⟨held, place required, place pass, place optional, first, last, stands⟩

end Emitter

/-! ## Patterns -/

open Emitter

/-- What a group of this kind writes around its body. -/
theorem GroupKind.writes_emitGroup {e : Emitter Unit} {F : Fragment} (kind : GroupKind)
    (h : e.Writes F) : (Pattern.emitGroup kind e).Writes (kind.fragment F) := by
  cases kind with
  | capture | named _ | nonCapture | branchReset | options _ _ => exact h
  | atomic => exact writes_fenced false h
  | lookahead => exact writes_fenced true h
  | negativeLookahead =>
    -- the instructions around the body one by one, or as two lists
    have code : Pattern.emitGroup .negativeLookahead e = (do
        let pass ← newLabel
        emitList [.save pass, .fence]
        e
        emitList [.cut false, .clear, .fail]
        place pass) := by
      simp [Pattern.emitGroup, emitList]
    rw [code]
    exact writes_negated h
  | nonAtomicLookahead | lookbehind | negativeLookbehind | nonAtomicLookbehind | scriptRun
  | atomicScriptRun => exact writes_refuse _ _

namespace Pattern

/-- An atom is one instruction, or it is refused. -/
theorem writes_emitAtom (level : MatchLevel) (a : Atom) :
    (emitAtom level a).Writes (a.fragment level) := by
  cases a with
  | any =>
    cases level with
    | grapheme => exact writes_emit ⟨rfl, rfl, rfl⟩ fun _ => rfl
    | scalar => exact writes_emit ⟨rfl, rfl, rfl⟩ fun _ => rfl
  | char _ | scalar _ | cls _ => exact writes_emit ⟨rfl, rfl, rfl⟩ fun _ => rfl
  | property _ _ | anchor _ | backreference _ => exact writes_refuse _ _

mutual

/-- Emitting a leveled pattern writes the code of the pattern. -/
theorem writes_emit (level : MatchLevel) :
    ∀ t : Pattern, (emit level (t.relevel level)).Writes (t.fragment level)
  | alternation [] => fun b => writes_nothing b
  | alternation (t :: ts) =>
    writes_alternation fun done => writesBranches_emitBranches level done (t :: ts)
  | concatenation items => writes_emitAll level items
  | group kind body => kind.writes_emitGroup (writes_emit level body)
  | transformed _ _ body => writes_emit level body
  | repetition amount greed body => by
    rw [relevel, emit, fragment, mayBeEmpty_relevel]
    split
    · exact writes_nothing
    · exact writes_repeated amount greed _ (writes_emit level body)
  | quote text => writes_string text level
  | trivia _ | empty => writes_nothing
  | atom a => by
    cases a with
    | cls _ => exact Emitter.writes_emit ⟨rfl, rfl, rfl⟩ fun _ => rfl
    | _ => exact writes_emitAtom level _
  | leveled _ _ => Emitter.writes_emit ⟨rfl, rfl, rfl⟩ fun _ => rfl
  | custom inverted _ => writes_refuse _ _

theorem writes_emitAll (level : MatchLevel) :
    ∀ ts : List Pattern, (emitAll level (relevelAll level ts)).Writes (.all (fragments level ts))
  | [] => writes_nothing
  | t :: ts => (writes_emit level t).append (writes_emitAll level ts)

theorem writesBranches_emitBranches (level : MatchLevel) (done : Label) :
    ∀ ts : List Pattern, (emitBranches level done (relevelAll level ts)).WritesBranches done
      (fragments level ts)
  | [] => fun b _ => writes_nothing b
  | [t] => fun b _ => writes_emit level t b
  | t :: t' :: ts => writesBranches_cons (writes_emit level t)
    (writesBranches_emitBranches level done (t' :: ts))

end

end Pattern

/-! ## Whole programs -/

/-- An emitter that writes a fragment stops at a construct that has no code, or its program is the
fragment. -/
theorem Emitter.Writes.program {e : Emitter Unit} {F : Fragment} (h : e.Writes F) :
    (∃ u, program e = .error (.unsupported u)) ∨
      ∃ (p : Program) (stop : Cursor), program e = .ok p ∧ F p .start stop ∧
        stop = ⟨p.code.size, p.counters.size, p.marks⟩ := by
  have yields := h .empty
  unfold Yields at yields
  split at yields
  · rename_i b ends
    have d : Drafts .empty b [] fun p _ => F p Cursor.start b.cursor := yields
    -- labels are known and have places, so that the builder can be assembled
    have known : b.Known := d.known fun i mem => absurd mem (by simp [Builder.empty])
    have placed : b.Placed := fun n inside => d.new n (Nat.zero_le n) inside List.not_mem_nil
    refine Or.inr ⟨b.finished, b.cursor, ?_, (d.realized _ _ b.realizedBy_finished).2, ?_⟩
    · have assembled := assemble_eq_ok known placed
      simp only [Emitter.program, StateT.run, ends, bind, Except.bind, assembled]
    · simp [finished, cursor]
  · rename_i u stops
    refine Or.inl ⟨u, ?_⟩
    rw [Emitter.program, StateT.run, stops]
    rfl
  · exact absurd yields id

namespace Pattern

/-- A program is the code of a pattern up to a cursor, then an instruction that accepts. -/
structure Compiled (level : MatchLevel) (t : Pattern) (p : Program) (stop : Cursor) : Prop where
  code : t.fragment level p .start stop
  accept : p.code[stop.ip]? = some .accept
  size : p.code.size = stop.ip + 1
  counters : p.counters.size = stop.counters
  marks : p.marks = stop.marks

/-- Compiling a pattern stops at a construct that has no code, or makes its program. -/
theorem compile_cases (level : MatchLevel) (t : Pattern) :
    (∃ u, t.compile level = .error (.unsupported u)) ∨
      ∃ (p : Program) (stop : Cursor), t.compile level = .ok p ∧ t.Compiled level p stop := by
  unfold compile
  split
  · rename_i tree found
    obtain rfl := eq_relevel_of_withLevel level t tree found
    -- the code of the leveled tree, then the instruction that accepts
    have accept : (Emitter.emit .accept).Writes (.code [.accept]) :=
      Emitter.writes_emit ⟨rfl, rfl, rfl⟩ fun _ => rfl
    rcases ((writes_emit level t).append accept).program with ⟨u, stops⟩ |
      ⟨p, stop, ends, ⟨middle, code, accept, stop_eq⟩, sizes⟩
    · exact Or.inl ⟨u, stops⟩
    · rw [stop_eq, Cursor.advance, Cursor.mk.injEq] at sizes
      exact Or.inr ⟨p, middle, ends, code, accept.1, sizes.1.symm, sizes.2.1.symm, sizes.2.2.symm⟩
  · rename_i e _
    exact Or.inl ⟨e, rfl⟩

/-- A program that was compiled is of this form. -/
theorem compiled_of_compile {level : MatchLevel} {t : Pattern} {p : Program}
    (h : t.compile level = .ok p) : ∃ stop, t.Compiled level p stop := by
  rcases compile_cases level t with ⟨u, stops⟩ | ⟨p', stop, ends, compiled⟩
  · rw [stops] at h
    cases h
  · rw [ends] at h
    cases h
    exact ⟨stop, compiled⟩

end Pattern

end GraphemeRegex
