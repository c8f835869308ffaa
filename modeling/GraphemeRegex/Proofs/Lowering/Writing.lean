import GraphemeRegex.Lowering.Emitter
import GraphemeRegex.Proofs.Program.Draft

/-! # Writing — what an emitter does to a builder

An emitter stops at a construct that has no code, or it ends with a result and a builder. That it
ends in no other way, because the builder never has a reason to refuse, is part of what is proved
about it.

* `Emitter.Yields`: what holds of the result and the builder with which an emitter ends.
* `Emitter.Yields.bind`, `Emitter.yields_newLabel`, `Emitter.yields_place`,
  `Emitter.yields_emitList`: the rule of each action.
* `Builder.Drafts.yields_place`, `Builder.Drafts.yields_emitList`: the same rules for drafts.
-/

namespace GraphemeRegex

namespace Emitter

variable {α β : Type} {b : Builder}

/-! ## Results -/

theorem pure_apply (x : α) (b : Builder) : (pure x : Emitter α) b = .ok (x, b) := rfl

theorem map_apply (f : α → β) (e : Emitter α) (b : Builder) :
    (f <$> e) b = (e b).bind fun r => .ok (f r.1, r.2) := rfl

theorem bind_apply (e : Emitter α) (f : α → Emitter β) (b : Builder) :
    (e >>= f) b = (e b).bind fun r => f r.1 r.2 := rfl

/-- Run on `b`, the emitter ends as `post` says or stops at a construct that has no code. -/
def Yields (e : Emitter α) (b : Builder) (post : α → Builder → Prop) : Prop :=
  match e b with
  | .ok (x, b') => post x b'
  | .error (.unsupported _) => True
  | .error (.builder _) => False

/-- An emitter whose run is known yields what holds at its end. -/
theorem yields_of_eq_ok {e : Emitter α} {post : α → Builder → Prop} {x : α} {b' : Builder}
    (ends : e b = .ok (x, b')) (h : post x b') : e.Yields b post := by
  rw [Yields, ends]
  exact h

/-- What an emitter yields may be weakened. -/
theorem Yields.imp {e : Emitter α} {post post' : α → Builder → Prop} (h : e.Yields b post)
    (weaker : ∀ x b', post x b' → post' x b') : e.Yields b post' := by
  unfold Yields at *
  split at h
  · -- the emitter ends; otherwise it has stopped and there is nothing to weaken
    exact weaker _ _ h
  · trivial
  · exact h

/-- One emitter behind another: what the first yields is where the second begins. This is the rule
by which everything below is put together. -/
theorem Yields.bind {e : Emitter α} {f : α → Emitter β} {post : α → Builder → Prop}
    {post' : β → Builder → Prop} (h : e.Yields b post)
    (later : ∀ x b', post x b' → (f x).Yields b' post') : (e >>= f).Yields b post' := by
  unfold Yields at *
  rw [bind_apply]
  split at h
  · rename_i x b' ends
    rw [ends]
    exact later x b' h
  · rename_i stops
    rw [stops]
    trivial
  · exact absurd h id

theorem yields_pure {post : α → Builder → Prop} {x : α} (h : post x b) :
    (pure x : Emitter α).Yields b post := h

/-! ## Single actions -/

/-- A construct without code stops the emitter, so nothing is asked of the end. -/
theorem yields_refuse (construct : String) (post : Unit → Builder → Prop) :
    (refuse construct).Yields b post := trivial

/-- A new label is pending in the draft: the next of its labels, not yet placed. -/
theorem yields_newLabel {post : Label → Builder → Prop}
    (h : post b.newLabel.1 b.newLabel.2) : newLabel.Yields b post := h

/-- Placing a label yields something only where the builder lets it be placed; that it does is part
of each use. -/
theorem yields_place {label : Label} {b' : Builder} {post : Unit → Builder → Prop}
    (placed : b.place label = .ok b') (h : post () b') : (place label).Yields b post := by
  refine yields_of_eq_ok ?_ h
  rw [place, write, placed]

/-- An instruction is appended if the builder allows its operands. -/
theorem yields_emit {i : Instruction Label} {post : Unit → Builder → Prop} (allowed : b.Allows i)
    (h : post () { b with code := b.code.push i }) : (emit i).Yields b post := by
  refine yields_of_eq_ok ?_ h
  rw [emit, write, Builder.emit_eq_ok allowed]

theorem yields_emitString {text : Text} {level : MatchLevel} {post : Unit → Builder → Prop}
    (h : post () (b.emitString text level)) : (emitString text level).Yields b post := h

/-! ## Lists of instructions -/

/-- Writes instructions one after the other. -/
def emitList : List (Instruction Label) → Emitter Unit
  | [] => pure ()
  | i :: l => do
    emit i
    emitList l

@[simp] theorem emitList_nil : emitList [] = pure () := rfl

@[simp] theorem emitList_singleton (i : Instruction Label) : emitList [i] = emit i := by
  simp [emitList]

/-- Writing two lists is writing one behind the other. -/
theorem emitList_append (l l' : List (Instruction Label)) :
    emitList (l ++ l') = (emitList l >>= fun _ => emitList l') := by
  induction l with
  | nil => simp [emitList]
  | cons i l ih => simp [emitList, ih]

/-- A list of allowed instructions is appended as a whole. -/
theorem yields_emitList {l : List (Instruction Label)} {post : Unit → Builder → Prop}
    (allowed : ∀ i ∈ l, b.Allows i) (h : post () { b with code := b.code ++ l.toArray }) :
    (emitList l).Yields b post := by
  induction l generalizing b with
  | nil => exact yields_pure (by simpa using h)
  | cons i l ih =>
    -- the builder of the first instruction allows what the one before it did
    have first : (emit i).Yields b fun _ b' => b' = { b with code := b.code.push i } :=
      yields_emit (allowed i (by simp)) rfl
    refine first.bind ?_
    rintro _ b' rfl
    refine ih ?_ (by simpa using h)
    intro j mem
    exact (allowed j (by simp [mem])).mono ⟨Nat.le_refl _, Nat.le_refl _, Nat.le_refl _⟩

end Emitter

/-! ## Drafts -/

namespace Builder.Drafts

open Emitter

variable {a b : Builder} {pending : List Label} {facts : Facts}

theorem yields_newLabel (d : a.Drafts b pending facts) :
    Emitter.newLabel.Yields b fun label b' => label.index = b.labels.size ∧
      b'.labels.size = b.labels.size + 1 ∧ b'.cursor = b.cursor ∧
      a.Drafts b' (pending ++ [label]) facts :=
  Emitter.yields_newLabel ⟨rfl, by simp [Builder.newLabel], rfl, d.newLabel⟩

/-- A pending label that is placed stands for the present place from now on. -/
theorem yields_place {label : Label} (d : a.Drafts b (label :: pending) facts)
    (fresh : label ∉ pending) :
    (Emitter.place label).Yields b fun _ b' => b.Grows b' ∧ b'.cursor = b.cursor ∧
      a.Drafts b' pending fun p place => facts p place ∧ place label = b.cursor.ip := by
  rcases d.place fresh with ⟨b', placed, grows, cursor, d'⟩
  exact Emitter.yields_place placed ⟨grows, cursor, d'⟩

/-- Instructions that are written in a draft stand, with their labels resolved, between its two
cursors in the finished program. -/
theorem yields_emitList (d : a.Drafts b pending facts) {l : List (Instruction Label)}
    (allowed : ∀ i ∈ l, b.Allows i) :
    (emitList l).Yields b fun _ b' => b.Grows b' ∧ b'.cursor = b.cursor.advance l.length ∧
      a.Drafts b' pending fun p place =>
        facts p place ∧ p.Segment b.cursor.ip (l.map (·.mapTargets place)) b'.cursor.ip := by
  have written := drafts_code b allowed
  refine Emitter.yields_emitList allowed ⟨written.grows, ?_, ?_⟩
  · simp [cursor, Cursor.advance]
  · refine (d.append written).imp ?_
    rintro p place _ ⟨before, stands⟩
    refine ⟨before, stands, ?_⟩
    simp [cursor]

end Builder.Drafts

end GraphemeRegex
