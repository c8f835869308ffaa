import GraphemeRegex.Proofs.Lowering.Emission
import GraphemeRegex.Proofs.Pattern.Nodes

/-! # Refusal — where compiling stops

Leveling stops at a bracketed class, wherever it stands, and the emitter at a construct without
code, unless it stands in a loop that leaves nothing to repeat. Either of them stops at the first
such node that it comes to, and nothing else stops compiling.

* `Pattern.lacksCode`: the nodes that have no code.
* `Emitter.Passes`, `Emitter.StopsAt`: the node at which an emitter stops, if it does.
* `Pattern.offender?`, `Pattern.compile_eq_error_iff`: the node that a failed compilation names.
-/

namespace GraphemeRegex

/-! ## Nodes without code -/

/-- Whether groups of this kind have code. -/
def GroupKind.hasCode : GroupKind → Bool
  | nonAtomicLookahead | lookbehind | negativeLookbehind | nonAtomicLookbehind | scriptRun
  | atomicScriptRun => false
  | _ => true

/-- Whether the atom has code. -/
def Atom.hasCode : Atom → Bool
  | property _ _ | anchor _ | backreference _ => false
  | _ => true

namespace Pattern

/-- Whether the node has no code, whatever its parts. The kind of a group with a transformation is
not looked at. -/
def lacksCode : Pattern → Bool
  | group kind _ => !kind.hasCode
  | atom a => !a.hasCode
  | custom _ _ => true
  | _ => false

/-- The node that keeps a pattern from being compiled: the first bracketed class, or else the first
live node without code. -/
def offender? (t : Pattern) : Option Pattern :=
  (t.nodes.find? isCustom).or (t.liveNodes.find? lacksCode)

end Pattern

/-! ## Emitters that stop -/

namespace Emitter

variable {α β : Type}

/-- The emitter does not stop at a construct, whatever it writes to. -/
def Passes (e : Emitter α) : Prop := ∀ b u, e b ≠ .error (.unsupported u)

/-- What never fails never stops at a construct. -/
theorem passes_of_eq_ok {e : Emitter α} {f : Builder → α × Builder} (h : ∀ b, e b = .ok (f b)) :
    e.Passes := by
  intro b u stops
  rw [h] at stops
  cases stops

theorem passes_pure (x : α) : (pure x : Emitter α).Passes := passes_of_eq_ok fun _ => rfl

theorem passes_make (f : Builder → α × Builder) : (make f).Passes := passes_of_eq_ok fun _ => rfl

/-- A builder refuses what is misused, not what is unsupported. -/
theorem passes_write (f : Builder → Except BuilderFault Builder) : (write f).Passes := by
  intro b u stops
  rw [write] at stops
  split at stops <;> cases stops

theorem passes_instruction (i : Instruction Label) : (emit i).Passes := passes_write _

/-- Whatever it writes to, the emitter stops at the given node, or at none, unless the builder
refuses something in front of that. -/
def StopsAt (e : Emitter α) (node? : Option Pattern) : Prop :=
  ∀ b, match e b with
    | .ok _ => node? = none
    | .error (.unsupported u) => ∃ node, node? = some node ∧ u = ⟨node.tag⟩
    | .error (.builder _) => True

variable {e : Emitter α} {f : α → Emitter β} {node? node'? : Option Pattern}

/-- What stops at no construct stops at no node. -/
theorem Passes.stopsAt (h : e.Passes) : e.StopsAt none := by
  intro b
  cases made : e b with
  | ok result => rfl
  | error stop =>
    cases stop with
    | unsupported u => exact absurd made (h b u)
    | builder fault => trivial

/-- A node is refused in its own name. -/
theorem stopsAt_refuse (node : Pattern) : (refuse node.tag).StopsAt (some node) := by
  intro b
  exact ⟨node, rfl, rfl⟩

/-- What comes second is looked at only where nothing in front of it stops. -/
theorem StopsAt.bind (h : e.StopsAt node?) (later : ∀ a, (f a).StopsAt node'?) :
    (e >>= f).StopsAt (node?.or node'?) := by
  intro b
  have first := h b
  rw [bind_apply]
  cases made : e b with
  | error stop =>
    rw [made] at first
    cases stop with
    | unsupported u =>
      obtain ⟨node, rfl, same⟩ := first
      exact ⟨node, rfl, same⟩
    -- nothing is said about misuse
    | builder fault => trivial
  | ok result =>
    rw [made] at first
    obtain rfl : node? = none := first
    exact later result.1 result.2

/-- What does not stop can be left out in front. -/
theorem Passes.bind (h : e.Passes) (later : ∀ a, (f a).StopsAt node?) :
    (e >>= f).StopsAt node? :=
  h.stopsAt.bind later

/-- What does not stop can be left out behind. -/
theorem StopsAt.bind_passes (h : e.StopsAt node?) (later : ∀ a, (f a).Passes) :
    (e >>= f).StopsAt node? := by
  have bound := h.bind fun a => (later a).stopsAt
  rwa [Option.or_none] at bound

theorem StopsAt.passes (h : e.StopsAt none) : e.Passes := by
  intro b u stops
  have first := h b
  rw [stops] at first
  obtain ⟨_, none, _⟩ := first
  cases none

/-- Instructions without any pattern are never refused. -/
theorem passes_emitList : ∀ l : List (Instruction Label), (emitList l).Passes
  | [] => passes_pure ()
  | i :: l => ((passes_instruction i).bind fun _ => (passes_emitList l).stopsAt).passes

/-- Between its segments, a loop only places labels. -/
theorem stopsAt_emitLoop (amount : Amount) (greed : Greed) (mayBeEmpty : Bool) {e : Emitter Unit}
    (h : e.StopsAt node?) : (emitLoop amount greed mayBeEmpty e).StopsAt node? := by
  have label := passes_make Builder.newLabel
  have list := passes_emitList
  have place (label : Label) : (place label).Passes := passes_write _
  -- labels and registers first, then segment by segment, with the body between the heads and the
  -- tails
  rw [emitLoop_eq]
  refine label.bind fun required => label.bind fun pass => label.bind fun optional =>
    label.bind fun exit => ?_
  refine (passes_of_eq_ok (LoopRegisters.allocate_eq_ok amount mayBeEmpty)).bind ?_
  intro registers
  refine (list _).bind fun _ => (place _).bind fun _ => (list _).bind fun _ =>
    (place _).bind fun _ => (list _).bind fun _ => h.bind_passes fun _ => ?_
  exact ((list _).bind fun _ => (place _).bind fun _ => (list _).bind fun _ =>
    (place _).stopsAt).passes

/-- The program of an emitter stops where the emitter does. -/
theorem StopsAt.program {e : Emitter Unit} (h : e.StopsAt node?) :
    (∀ p, program e = .ok p → node? = none) ∧
      ∀ u, program e = .error (.unsupported u) → ∃ node, node? = some node ∧ u = ⟨node.tag⟩ := by
  have first := h .empty
  unfold Emitter.program
  rw [StateT.run]
  cases made : e .empty with
  | error stop =>
    rw [made] at first
    refine ⟨nofun, ?_⟩
    rintro u ⟨⟩
    exact first
  | ok result =>
    rw [made] at first
    refine ⟨fun _ _ => first, ?_⟩
    -- what is assembled may be at fault, which is no refusal
    intro u stops
    cases assembled : result.2.assemble <;>
      simp [assembled, Bind.bind, Except.bind] at stops

end Emitter

open Emitter

/-! ## Patterns -/

/-- A group without code stops in its own name, before its body is looked at. -/
theorem GroupKind.stopsAt_emitGroup {e : Emitter Unit} {body : Pattern} {node? : Option Pattern}
    (kind : GroupKind) (h : e.StopsAt node?) :
    (Pattern.emitGroup kind e).StopsAt
      (if kind.hasCode then node? else some (.group kind body)) := by
  have emit := passes_instruction
  cases kind with
  | capture | named _ | nonCapture | branchReset | options _ _ => exact h
  | atomic | lookahead => exact (emit _).bind fun _ => h.bind_passes fun _ => emit _
  -- the instructions around the body are never refused
  | negativeLookahead =>
    refine (passes_make _).bind fun _ => (emit _).bind fun _ => (emit _).bind fun _ =>
      h.bind_passes fun _ => ?_
    exact ((emit _).bind fun _ => (emit _).bind fun _ => (emit _).bind fun _ =>
      (passes_write _).stopsAt).passes
  | nonAtomicLookahead | lookbehind | negativeLookbehind | nonAtomicLookbehind | scriptRun
  | atomicScriptRun => exact stopsAt_refuse _

namespace Pattern

/-- An atom is the only node of itself. -/
theorem stopsAt_emitAtom (level : MatchLevel) (a : Atom) :
    (emitAtom level a).StopsAt ([atom a].find? lacksCode) := by
  cases a with
  | any => cases level <;> exact (passes_instruction _).stopsAt
  | char _ | scalar _ | cls _ => exact (passes_instruction _).stopsAt
  | property _ _ | anchor _ | backreference _ => exact stopsAt_refuse _

mutual

/-- Emitting a leveled pattern stops at its first live node without code. -/
theorem stopsAt_emit (level : MatchLevel) : ∀ t : Pattern,
    (emit level (t.relevel level)).StopsAt (t.liveNodes.find? lacksCode)
  | alternation [] => (passes_pure ()).stopsAt
  | alternation (t :: ts) => (passes_make _).bind fun done =>
    (stopsAt_emitBranches level done (t :: ts)).bind_passes fun _ => passes_write _
  | concatenation items => stopsAt_emitAll level items
  | group kind body => by
    -- the group comes in front of what lies in it
    have first : (group kind body).liveNodes.find? lacksCode =
        if kind.hasCode then body.liveNodes.find? lacksCode else some (group kind body) := by
      rw [liveNodes, List.find?_cons, lacksCode]
      cases kind.hasCode <;> rfl
    rw [first]
    exact kind.stopsAt_emitGroup (stopsAt_emit level body)
  | transformed _ _ body => stopsAt_emit level body
  | repetition amount greed body => by
    rw [relevel, emit, liveNodes]
    -- what lies in a loop that leaves nothing to repeat is not alive
    show StopsAt _ ((if amount.isDegenerate then [] else body.liveNodes).find? lacksCode)
    split
    · exact (passes_pure ()).stopsAt
    · exact stopsAt_emitLoop amount greed _ (stopsAt_emit level body)
  | quote _ => (passes_make _).stopsAt
  | trivia _ | empty => (passes_pure ()).stopsAt
  | atom a => by
    cases a with
    | cls _ => exact (passes_instruction _).stopsAt
    | _ => exact stopsAt_emitAtom level _
  | leveled _ _ => (passes_instruction _).stopsAt
  | custom _ _ => stopsAt_refuse _

theorem stopsAt_emitAll (level : MatchLevel) : ∀ ts : List Pattern,
    (emitAll level (relevelAll level ts)).StopsAt ((liveNodesAll ts).find? lacksCode)
  | [] => (passes_pure ()).stopsAt
  | t :: ts => by
    rw [liveNodesAll, List.find?_append]
    exact (stopsAt_emit level t).bind fun _ => stopsAt_emitAll level ts

theorem stopsAt_emitBranches (level : MatchLevel) (done : Label) : ∀ ts : List Pattern,
    (emitBranches level done (relevelAll level ts)).StopsAt ((liveNodesAll ts).find? lacksCode)
  | [] => (passes_pure ()).stopsAt
  | [t] => by
    rw [liveNodesAll, liveNodesAll, List.append_nil]
    exact stopsAt_emit level t
  | t :: t' :: ts => by
    rw [liveNodesAll, List.find?_append]
    -- the label, the save, this branch, the jump behind it, the label's place, the other branches
    exact (passes_make _).bind fun _ => (passes_write _).bind fun _ =>
      (stopsAt_emit level t).bind fun _ => (passes_write _).bind fun _ =>
      (passes_write _).bind fun _ => stopsAt_emitBranches level done (t' :: ts)

end

/-! ## Compiling -/

/-- A pattern with an offender is refused in its name, and any other has a program. -/
theorem compile_of_offender? (level : MatchLevel) (t : Pattern) :
    match t.offender? with
    | some node => t.compile level = .error (.unsupported ⟨node.tag⟩)
    | none => ∃ p, t.compile level = .ok p := by
  unfold offender?
  cases custom : t.nodes.find? isCustom with
  | some node =>
    -- leveling stops at the bracketed class, before anything is emitted
    rw [Option.some_or, compile, withLevel_eq, custom]
  | none =>
    rw [Option.none_or]
    have stops := ((stopsAt_emit level t).bind_passes fun _ => passes_instruction .accept).program
    -- without one, all nodes that stop are found by the emitter
    have made : t.compile level = (t.relevel level).lower level := by
      rw [compile, withLevel_eq, custom]
    rcases compile_cases level t with ⟨u, refused⟩ | ⟨p, _, compiled, _⟩
    · obtain ⟨node, found, rfl⟩ := stops.2 u (made.symm.trans refused)
      rw [found]
      exact refused
    · rw [stops.1 p (made.symm.trans compiled)]
      exact ⟨p, compiled⟩

/-- There is an offender if there is any node that could be one. -/
theorem offender?_isSome_iff (t : Pattern) : t.offender?.isSome = true ↔
    (∃ node ∈ t.nodes, node.isCustom = true) ∨ ∃ node ∈ t.liveNodes, node.lacksCode = true := by
  rw [offender?, Option.isSome_or, Bool.or_eq_true, List.find?_isSome, List.find?_isSome]

/-- Compiling fails exactly if there is a bracketed class anywhere in the pattern or a live node
without code, and then the error names the first bracketed class, or else the first such node. -/
theorem compile_eq_error_iff (t : Pattern) (level : MatchLevel) :
    ((∃ e, t.compile level = .error e) ↔
      (∃ node ∈ t.nodes, node.isCustom = true) ∨ ∃ node ∈ t.liveNodes, node.lacksCode = true) ∧
    ∀ e, t.compile level = .error e ↔
      ∃ node, t.offender? = some node ∧ e = .unsupported ⟨node.tag⟩ := by
  have compiles := compile_of_offender? level t
  have offends := offender?_isSome_iff t
  cases found : t.offender? with
  | some node =>
    rw [found] at compiles offends
    refine ⟨⟨fun _ => offends.1 rfl, fun _ => ⟨_, compiles⟩⟩, ?_⟩
    intro e
    rw [compiles]
    -- the error names this node and no other
    constructor
    · rintro ⟨⟩
      exact ⟨node, rfl, rfl⟩
    · rintro ⟨_, ⟨⟩, rfl⟩
      rfl
  | none =>
    rw [found] at compiles offends
    obtain ⟨p, compiled⟩ := compiles
    rw [compiled]
    exact ⟨⟨nofun, fun offender => nomatch offends.2 offender⟩, fun e => ⟨nofun, nofun⟩⟩

/-- A bracketed class is named even if it stands behind an anchor and in a loop without passes. -/
example : (concatenation [.atom (.anchor .startOfLine),
    .repetition (.exactly 0) .eager (.custom true [])]).offender?.map tag =
    some "customCharacterClass(inverted)" := rfl

end Pattern

end GraphemeRegex
