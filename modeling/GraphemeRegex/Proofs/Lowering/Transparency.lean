import GraphemeRegex.Lowering.Compile
import GraphemeRegex.Proofs.Pattern.Erasing

/-! # Transparency — groups and items that leave no trace in the code

An erased pattern has the code of the pattern: the emitters of both are the same action on a
builder, so they make the same labels, registers and texts in the same order and stop at the same
construct.

* `Pattern.emit_erase`: the emitter of an erased pattern.
* `Pattern.compile_erase`: an erased pattern is bare, and it compiles to the same program or stops
  with the same error.
-/

namespace GraphemeRegex

namespace Pattern

/-- Such a group writes its body and nothing else. -/
theorem emitGroup_of_isTransparent {kind : GroupKind} (body : Emitter Unit)
    (transparent : kind.isTransparent = true) : emitGroup kind body = body := by
  cases kind <;> first | rfl | cases transparent

variable (level : MatchLevel)

/-! ## Sequences -/

theorem emitAll_singleton (t : Pattern) : emitAll level [t] = emit level t := by
  simp [emitAll]

/-- Sequences are written one behind the other. -/
theorem emitAll_append (ts us : List Pattern) :
    emitAll level (ts ++ us) = (do
      emitAll level ts
      emitAll level us) := by
  induction ts with
  | nil => simp [emitAll]
  | cons t ts ih => simp [emitAll, ih]

/-- In a sequence, a pattern can be replaced by what it contributes. -/
theorem emitAll_spliced (t : Pattern) : emitAll level t.spliced = emit level t := by
  cases t with
  | concatenation _ | empty => rfl
  | _ => exact emitAll_singleton level _

/-- One item is written as it is, and several one after the other. -/
theorem emit_ofItems (items : List Pattern) : emit level (ofItems items) = emitAll level items := by
  match items with
  | [] => rfl
  | [t] => exact (emitAll_singleton level t).symm
  | _ :: _ :: _ => rfl

/-! ## Patterns -/

mutual

/-- An erased pattern writes what the pattern does. -/
theorem emit_erase : ∀ t : Pattern, emit level t.erase = emit level t
  | alternation [] => rfl
  | alternation (t :: ts) => by
    -- the branches are as many as before, so there are as many labels
    have branches (done : Label) := emitBranches_eraseAll done (t :: ts)
    simp only [erase, emit, eraseAll, List.isEmpty_cons] at branches ⊢
    simp only [branches]
  | concatenation items => by rw [erase, emit_ofItems, emit, emitAll_eraseItems items]
  | group kind body => by
    rw [erase, emit]
    split
    · rename_i transparent
      rw [emitGroup_of_isTransparent _ transparent, emit_erase body]
    · rw [emit, emit_erase body]
  | transformed _ kind body => by
    rw [erase, emit]
    split
    · exact emit_erase body
    · rw [emit, emit_erase body]
  | repetition _ _ body => by
    -- a loop remembers its passes if its body may be empty, which erasing does not change
    rw [erase, emit, emit, mayBeEmpty_erase, emit_erase body]
  | quote _ | trivia _ | atom _ | leveled _ _ | custom _ _ | empty => rfl

/-- The items that are left write what all of them do. -/
theorem emitAll_eraseItems : ∀ ts : List Pattern,
    emitAll level (eraseItems ts) = emitAll level ts
  | [] => rfl
  | t :: ts => by
    rw [eraseItems, emitAll_append, emitAll_spliced, emit_erase t, emitAll_eraseItems ts, emitAll]

/-- Branches stay what they are, also if nothing is left of them. -/
theorem emitBranches_eraseAll (done : Label) : ∀ ts : List Pattern,
    emitBranches level done (eraseAll ts) = emitBranches level done ts
  | [] => rfl
  | [t] => emit_erase t
  | t :: t' :: ts => by
    have later := emitBranches_eraseAll done (t' :: ts)
    rw [eraseAll] at later
    simp only [eraseAll, emitBranches, emit_erase t, later]

end

/-- The same for trees whose classes have their levels already. -/
theorem lower_erase (t : Pattern) : t.erase.lower level = t.lower level := by
  rw [lower, lower, emit_erase]

/-- Captures, names, options, comments and the nesting of sequences never change the code: without
them a pattern compiles to the same program, or it stops with the same error. -/
theorem compile_erase (t : Pattern) :
    t.erase.isBare = true ∧ t.erase.compile level = t.compile level := by
  refine ⟨isBare_erase t, ?_⟩
  rw [compile, compile, withLevel_erase]
  cases t.withLevel level with
  | error e => rfl
  | ok tree => exact lower_erase level tree

end Pattern

end GraphemeRegex
