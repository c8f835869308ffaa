import GraphemeRegex.Lowering.Compile
import GraphemeRegex.Proofs.Lowering.Segments
import GraphemeRegex.Proofs.Pattern.Releveling

/-! # Scalarwise programs — compiling at one level and at the other

The two levels make different instructions of the same places of a pattern, and nothing else differs
between their programs. So the program for scalars is the one for clusters, with each instruction
that consumes replaced by its counterpart.

* `Instruction.scalarwise`, `Program.scalarwise`: the counterpart of an instruction, of a program.
* `Emitter.Mirrors`: an emitter writes the counterpart of what another one writes.
* `Pattern.mirrors_emit`: so do the emitters of a pattern at the two levels.
* `Pattern.compile_scalar`: the program for scalars is the counterpart of the one for clusters.
-/

namespace GraphemeRegex

/-! ## Instructions -/

namespace Instruction

variable {α β ε : Type}

/-- The instruction for scalars in place of one for clusters. Several clusters, and a text that is
not a single scalar, have no counterpart. -/
def scalarwise : Instruction α → Instruction α
  | advance count => if count = 1 then consume .anyScalar .scalar else advance count
  | matchText text level => matchText text (if text.length = 1 then .scalar else level)
  | matchString string _ => matchString string .scalar
  | consume cls _ => consume cls .scalar
  | i => i

/-- A counterpart pushes what the instruction pushes. -/
theorem pushes_scalarwise (i : Instruction α) : i.scalarwise.pushes = i.pushes := by
  cases i with
  | advance count =>
    rw [scalarwise]
    split <;> rfl
  | _ => rfl

/-- Replacing the targets of a counterpart makes the counterpart with replaced targets. -/
theorem mapTargetsM_scalarwise (f : α → Except ε β) (i : Instruction α) :
    i.scalarwise.mapTargetsM f = (i.mapTargetsM f).map scalarwise := by
  cases i with
  | advance count =>
    -- no targets; the counterpart is another kind of instruction if a single cluster is skipped
    show _ = Except.ok (advance count).scalarwise
    rw [scalarwise, scalarwise]
    split <;> rfl
  | save a | branch a | condBranch a _ | checkProgress a _ =>
    show (f a >>= _) = (f a >>= _).map scalarwise
    cases f a <;> rfl
  -- a choice has two targets, and the first one that fails is the reason of both
  | split a c =>
    show (f a >>= _) = (f a >>= _).map scalarwise
    cases f a with
    | error e => rfl
    | ok target =>
      show (f c >>= _) = (f c >>= _).map scalarwise
      cases f c <;> rfl
  | _ => rfl

/-- The same for the instructions of a whole program. -/
theorem mapM_scalarwise (f : α → Except ε β) (l : List (Instruction α)) :
    (l.map scalarwise).mapM (mapTargetsM f) =
      (l.mapM (mapTargetsM f)).map (List.map scalarwise) := by
  induction l with
  | nil => rfl
  | cons i l ih =>
    rw [List.map_cons, List.mapM_cons, List.mapM_cons, mapTargetsM_scalarwise, ih]
    cases i.mapTargetsM f with
    | error e => rfl
    | ok j => cases l.mapM (mapTargetsM f) <;> rfl

end Instruction

/-- The program with each instruction replaced by its counterpart for scalars. -/
def Program.scalarwise (p : Program) : Program :=
  { p with code := p.code.map (·.scalarwise) }

/-! ## Builders -/

namespace Builder

/-- The builder with each instruction replaced by its counterpart for scalars. -/
def scalarwise (b : Builder) : Builder :=
  { b with code := b.code.map (·.scalarwise) }

variable (b : Builder)

/-- Counterparts take as much space as the instructions. -/
theorem cursor_scalarwise : b.scalarwise.cursor = b.cursor := by
  simp [cursor, scalarwise]

/-- Labels get the same places among counterparts. -/
theorem place_scalarwise (label : Label) :
    b.scalarwise.place label = (b.place label).map scalarwise := by
  unfold place scalarwise
  cases b.labels[label.index]? with
  | none => rfl
  | some placed =>
    cases placed with
    | none => simp [Except.map]
    | some place => rfl

/-- Writing an instruction fails for want of space, which is the same for both. -/
theorem emit_scalarwise (i : Instruction Label) :
    b.scalarwise.emit i.scalarwise = (b.emit i).map scalarwise := by
  -- the operands that are checked are the same
  have operands : b.scalarwise.checkOperands i.scalarwise = b.checkOperands i := by
    cases i with
    | advance count =>
      rw [Instruction.scalarwise]
      split <;> rfl
    | _ => rfl
  rw [emit, emit, operands]
  cases b.checkOperands i with
  | error e => rfl
  | ok => simp [bind, Except.bind, pure, Except.pure, Except.map, scalarwise]

/-- The text becomes the same constant, and is matched at the other level. -/
theorem emitString_scalarwise (text : Text) (level : MatchLevel) :
    b.scalarwise.emitString text .scalar = (b.emitString text level).scalarwise := by
  simp [emitString, intern, scalarwise, Instruction.scalarwise]

/-- Labels may be resolved before or after taking counterparts. -/
theorem assemble_scalarwise : b.scalarwise.assemble = b.assemble.map Program.scalarwise := by
  have resolved : b.scalarwise.code.toList.mapM (Instruction.mapTargetsM b.resolve) =
      (b.code.toList.mapM (Instruction.mapTargetsM b.resolve)).map (List.map (·.scalarwise)) := by
    rw [← Instruction.mapM_scalarwise, scalarwise, Array.toList_map]
  have same : b.scalarwise.resolve = b.resolve := rfl
  rw [assemble, assemble, Array.mapM_eq_mapM_toList, Array.mapM_eq_mapM_toList, same, resolved]
  cases b.code.toList.mapM (Instruction.mapTargetsM b.resolve) with
  | error e => rfl
  | ok code =>
    show Except.ok _ = Except.ok _
    simp [Program.scalarwise, scalarwise]

end Builder

/-! ## Emitters -/

namespace Emitter

variable {α β : Type}

/-- Where `e` writes something, `e'` writes the counterpart for scalars, with the same result; and
where `e` stops, so does `e'`, for the same reason. -/
def Mirrors (e e' : Emitter α) : Prop :=
  ∀ b : Builder, e' b.scalarwise = (e b).map fun r => (r.1, r.2.scalarwise)

variable {e e' : Emitter Unit}

theorem mirrors_pure (x : α) : (pure x : Emitter α).Mirrors (pure x) := fun _ => rfl

theorem Mirrors.bind {d d' : Emitter α} {f f' : α → Emitter β} (h : d.Mirrors d')
    (later : ∀ x, (f x).Mirrors (f' x)) : (d >>= f).Mirrors (d' >>= f') := by
  intro b
  rw [bind_apply, bind_apply, h b]
  cases d b with
  | error fault => rfl
  | ok r => exact later r.1 r.2

/-- What is refused at one level is refused at the other one. -/
theorem mirrors_refuse (construct : String) : (refuse construct).Mirrors (refuse construct) :=
  fun _ => rfl

theorem mirrors_newLabel : newLabel.Mirrors newLabel := fun _ => rfl

theorem mirrors_place (label : Label) : (place label).Mirrors (place label) := by
  intro b
  rw [place, write, write, Builder.place_scalarwise]
  cases b.place label <;> rfl

/-- An instruction and its counterpart. -/
theorem mirrors_emit (i : Instruction Label) : (emit i).Mirrors (emit i.scalarwise) := by
  intro b
  rw [emit, emit, write, write, Builder.emit_scalarwise]
  cases b.emit i <;> rfl

/-- A text is matched at the level of the code. -/
theorem mirrors_emitString (text : Text) (level : MatchLevel) :
    (emitString text level).Mirrors (emitString text .scalar) := by
  intro b
  rw [emitString, emitString, make, make, Builder.emitString_scalarwise b text level]
  rfl

/-- Instructions one after the other. -/
theorem mirrors_emitList (l : List (Instruction Label)) :
    (emitList l).Mirrors (emitList (l.map (·.scalarwise))) := by
  induction l with
  | nil => exact mirrors_pure ()
  | cons i l ih => exact (mirrors_emit i).bind fun _ => ih

/-- Registers do not depend on the level. -/
theorem mirrors_allocate (amount : Amount) (mayBeEmpty : Bool) :
    (LoopRegisters.allocate amount mayBeEmpty).Mirrors
      (LoopRegisters.allocate amount mayBeEmpty) := by
  intro b
  rw [LoopRegisters.allocate_eq_ok, LoopRegisters.allocate_eq_ok, Builder.cursor_scalarwise]
  rfl

/-- The program of a mirroring emitter is the counterpart. -/
theorem Mirrors.program (h : e.Mirrors e') :
    program e' = (program e).map Program.scalarwise := by
  have mirrored := h .empty
  have nothing : Builder.empty.scalarwise = .empty := by
    simp [Builder.scalarwise, Builder.empty]
  rw [nothing] at mirrored
  rw [Emitter.program, Emitter.program, StateT.run, StateT.run, mirrored]
  cases e .empty with
  | error fault => rfl
  | ok r =>
    have assembled := r.2.assemble_scalarwise
    simp only [Except.map, Bind.bind, Except.bind, assembled]
    cases r.2.assemble <;> rfl

end Emitter

/-! ## Loops -/

namespace Loop

variable {α : Type} (l : Loop)

/-! What stands around the body of a loop consumes nothing, so it is its own counterpart. -/

theorem scalarwise_prologue :
    (l.prologue : List (Instruction α)).map (·.scalarwise) = l.prologue := by
  rcases l with ⟨_, _ | _ | _, ⟨_ | _, _ | _, _ | _⟩⟩ <;> rfl

theorem scalarwise_requirement (optional : α) :
    (l.requirement optional).map (·.scalarwise) = l.requirement optional := by
  unfold requirement
  split
  · rfl
  · split <;> rfl

theorem scalarwise_passHead :
    (l.passHead : List (Instruction α)).map (·.scalarwise) = l.passHead := by
  rcases l with ⟨_, _ | _ | _, ⟨_ | _, _ | _, _ | _⟩⟩ <;> rfl

theorem scalarwise_passTail (required : α) :
    (l.passTail required).map (·.scalarwise) = l.passTail required := by
  unfold passTail ifPossessive
  split <;> split <;> rfl

theorem scalarwise_allowance (exit : α) :
    (l.allowance exit).map (·.scalarwise) = l.allowance exit := by
  unfold allowance
  split
  · rfl
  · split <;> rfl

theorem scalarwise_policy (pass exit : α) :
    (l.policy pass exit).map (·.scalarwise) = l.policy pass exit := by
  rw [policy, List.map_append, List.map_append, List.map_append, scalarwise_allowance]
  rcases l with ⟨_, _ | _ | _, ⟨_ | _, _ | _, _ | _⟩⟩ <;> rfl

end Loop

namespace Emitter

variable {e e' : Emitter Unit}

/-- A loop mirrors another one with the same bounds if their bodies do. -/
theorem mirrors_loop (amount : Amount) (greed : Greed) (mayBeEmpty : Bool) (h : e.Mirrors e') :
    (emitLoop amount greed mayBeEmpty e).Mirrors (emitLoop amount greed mayBeEmpty e') := by
  -- lists that are their own counterparts mirror themselves
  have list {l : List (Instruction Label)} (same : l.map (·.scalarwise) = l) :
      (emitList l).Mirrors (emitList l) := by
    have written := mirrors_emitList l
    rwa [same] at written
  -- the loop part by part, the body in the middle
  rw [emitLoop_eq, emitLoop_eq]
  refine mirrors_newLabel.bind fun required => mirrors_newLabel.bind fun pass =>
    mirrors_newLabel.bind fun optional => mirrors_newLabel.bind fun exit =>
    (mirrors_allocate amount mayBeEmpty).bind fun registers => ?_
  let l : Loop := ⟨amount, greed, registers⟩
  refine (list l.scalarwise_prologue).bind fun _ => (mirrors_place required).bind fun _ => ?_
  refine (list (l.scalarwise_requirement optional)).bind fun _ =>
    (mirrors_place pass).bind fun _ => ?_
  refine (list l.scalarwise_passHead).bind fun _ => h.bind fun _ => ?_
  refine (list (l.scalarwise_passTail required)).bind fun _ =>
    (mirrors_place optional).bind fun _ => ?_
  exact (list (l.scalarwise_policy pass exit)).bind fun _ => mirrors_place exit

end Emitter

/-! ## Patterns -/

namespace Pattern

open Emitter

mutual

/-- Each character that the pattern gives as it is, outside of brackets, is a single scalar.
Brackets have no code at either level. -/
def hasSingleChars : Pattern → Bool
  | alternation branches => allHaveSingleChars branches
  | concatenation items => allHaveSingleChars items
  | group _ body => hasSingleChars body
  | transformed _ _ body => hasSingleChars body
  | repetition _ _ body => hasSingleChars body
  | atom (.char text) => text.length == 1
  | atom _ | quote _ | trivia _ | leveled _ _ | custom _ _ | empty => true

/-- The same for each of some patterns. -/
def allHaveSingleChars : List Pattern → Bool
  | [] => true
  | p :: ps => hasSingleChars p && allHaveSingleChars ps

end

/-- A group mirrors another one of its kind if their bodies do. -/
theorem mirrors_emitGroup {e e' : Emitter Unit} (kind : GroupKind) (h : e.Mirrors e') :
    (emitGroup kind e).Mirrors (emitGroup kind e') := by
  cases kind with
  | capture | named _ | nonCapture | branchReset | options _ _ => exact h
  | atomic | lookahead =>
    exact (mirrors_emit .fence).bind fun _ => h.bind fun _ => mirrors_emit (.cut _)
  | negativeLookahead =>
    refine mirrors_newLabel.bind fun pass => (mirrors_emit (.save pass)).bind fun _ =>
      (mirrors_emit .fence).bind fun _ => h.bind fun _ => ?_
    exact (mirrors_emit (.cut false)).bind fun _ => (mirrors_emit .clear).bind fun _ =>
      (mirrors_emit .fail).bind fun _ => mirrors_place pass
  | nonAtomicLookahead | lookbehind | negativeLookbehind | nonAtomicLookbehind | scriptRun
  | atomicScriptRun => exact mirrors_refuse _

/-- An atom of the tree for clusters and the same atom for scalars: a character has a counterpart if
it is a single scalar. -/
theorem mirrors_emitAtom (a : Atom) (single : (atom a).hasSingleChars = true) :
    (emit .grapheme ((atom a).relevel .grapheme)).Mirrors
      (emit .scalar ((atom a).relevel .scalar)) := by
  cases a with
  | any => exact Emitter.mirrors_emit (.advance 1)
  | char text =>
    -- here the two levels part if there are more scalars than one
    have length : text.length = 1 := by simpa [hasSingleChars] using single
    have counterpart : (Instruction.matchText text .grapheme : Instruction Label).scalarwise =
        .matchText text .scalar := by
      rw [Instruction.scalarwise, if_pos length]
    have written := Emitter.mirrors_emit (.matchText text .grapheme)
    rwa [counterpart] at written
  | scalar c => exact Emitter.mirrors_emit (.matchText [c] .grapheme)
  | cls cls => exact Emitter.mirrors_emit (.consume cls .grapheme)
  | property _ _ | anchor _ | backreference _ => exact mirrors_refuse _

mutual

/-- At the scalar level, the code of a pattern is the counterpart of its code at the other one. -/
theorem mirrors_emit : ∀ t : Pattern, t.hasSingleChars = true →
    (emit .grapheme (t.relevel .grapheme)).Mirrors (emit .scalar (t.relevel .scalar))
  | alternation [], _ => mirrors_pure ()
  | alternation (t :: ts), single =>
    mirrors_newLabel.bind fun done =>
      (mirrors_emitBranches done (t :: ts) single).bind fun _ => mirrors_place done
  | concatenation items, single => mirrors_emitAll items single
  | group kind body, single => mirrors_emitGroup kind (mirrors_emit body single)
  | transformed _ _ body, single => mirrors_emit body single
  | repetition amount greed body, single => by
    rw [relevel, relevel, emit, emit, mayBeEmpty_relevel, mayBeEmpty_relevel]
    split
    · exact mirrors_pure ()
    · exact mirrors_loop amount greed _ (mirrors_emit body single)
  | quote text, _ => mirrors_emitString text .grapheme
  | trivia _, _ | empty, _ => mirrors_pure ()
  | atom a, single => mirrors_emitAtom a single
  | leveled cls _, _ => Emitter.mirrors_emit (.consume cls .grapheme)
  | custom inverted _, _ => mirrors_refuse _

theorem mirrors_emitAll : ∀ ts : List Pattern, allHaveSingleChars ts = true →
    (emitAll .grapheme (relevelAll .grapheme ts)).Mirrors
      (emitAll .scalar (relevelAll .scalar ts))
  | [], _ => mirrors_pure ()
  | t :: ts, single => by
    rw [allHaveSingleChars, Bool.and_eq_true] at single
    exact (mirrors_emit t single.1).bind fun _ => mirrors_emitAll ts single.2

theorem mirrors_emitBranches (done : Label) :
    ∀ ts : List Pattern, allHaveSingleChars ts = true →
      (emitBranches .grapheme done (relevelAll .grapheme ts)).Mirrors
        (emitBranches .scalar done (relevelAll .scalar ts))
  | [], _ => mirrors_pure ()
  | [t], single => by
    rw [allHaveSingleChars, Bool.and_eq_true] at single
    exact mirrors_emit t single.1
  | t :: t' :: ts, single => by
    rw [allHaveSingleChars, Bool.and_eq_true] at single
    refine mirrors_newLabel.bind fun next => (Emitter.mirrors_emit (.save next)).bind fun _ =>
      (mirrors_emit t single.1).bind fun _ => ?_
    exact (Emitter.mirrors_emit (.branch done)).bind fun _ => (mirrors_place next).bind fun _ =>
      mirrors_emitBranches done (t' :: ts) single.2

end

/-- A pattern whose characters are single scalars is compiled at the scalar level to the counterpart
of its program at the other level; or both levels stop for the same reason. -/
theorem compile_scalar (t : Pattern) (single : t.hasSingleChars = true) :
    t.compile .scalar = (t.compile .grapheme).map Program.scalarwise := by
  unfold compile
  rcases uniform_withLevel t with ⟨e, stops⟩ | ends
  · have stop (level : MatchLevel) : t.withLevel level = .error e := stops level
    rw [stop, stop]
    rfl
  · have made (level : MatchLevel) : t.withLevel level = .ok (t.relevel level) := ends level
    rw [made, made]
    have code := (mirrors_emit t single).bind fun _ => Emitter.mirrors_emit .accept
    exact code.program

end Pattern

end GraphemeRegex
