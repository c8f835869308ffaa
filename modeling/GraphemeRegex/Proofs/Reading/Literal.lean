import GraphemeRegex.Proofs.Reading.Spelling
import GraphemeRegex.Reading.Parse

/-! # Literals — sources that stand for themselves

A cluster that is not one of the special characters alone is read as a character, whatever comes
before and behind it; a special character that combining marks have joined is no exception. So a
source without special characters is read as the sequence of its clusters.

* `Text.IsLiteral`: a source without special characters.
* `Reading.step_of_ordinary`, `Reading.run_of_ordinary`: reading one cluster, and all of them.
* `Pattern.parse_of_literal`: the tree of such a source.
-/

namespace GraphemeRegex

/-- The unit is not a special character alone. -/
def Text.IsOrdinary (unit : Text) : Prop := ∀ c ∈ specialCharacters, unit ≠ [c]

/-- No cluster of the text is a special character alone. -/
def Text.IsLiteral (source : Text) : Prop := ∀ unit ∈ source.clusters, unit.IsOrdinary

instance (source : Text) : Decidable source.IsLiteral :=
  inferInstanceAs (Decidable (∀ unit ∈ source.clusters, ∀ c ∈ specialCharacters, unit ≠ [c]))

variable {limit : Nat} {unit : Text} {rest : List Text} {i : Input}

/-- A text of ordinary units does not go on with an amount. -/
theorem Quantifier.readAmount?_of_ordinary (units : i.rest = unit :: rest)
    (ordinary : unit.IsOrdinary) : readAmount? i = none := by
  have noBound : Bound.comesNext i = false := by
    rw [Bound.comesNext, units, if_neg]
    intro same
    exact ordinary '\x7b' (by decide) (Option.some.inj same)
  rw [readAmount?, units, noBound]
  split
  · rename_i same
    exact absurd (List.cons.inj same).1 (ordinary '*' (by decide))
  · rename_i same
    exact absurd (List.cons.inj same).1 (ordinary '+' (by decide))
  · rename_i same
    exact absurd (List.cons.inj same).1 (ordinary '?' (by decide))
  · rfl

namespace Reading

variable {r : Reading}

/-- An ordinary unit is none of those with a meaning of their own. -/
theorem readOperand_of_ordinary (ordinary : unit.IsOrdinary) :
    readOperand .traditional limit r unit i =
      .ok (r.operand (.atom (.char unit)), i.skip 1) := by
  unfold readOperand
  split
  · exact absurd rfl (ordinary '(' (by decide))
  · exact absurd rfl (ordinary '[' (by decide))
  · exact absurd rfl (ordinary '\\' (by decide))
  · exact absurd rfl (ordinary '.' (by decide))
  · exact absurd rfl (ordinary '^' (by decide))
  · exact absurd rfl (ordinary '$' (by decide))
  · rfl

/-- An ordinary unit is read as a character. -/
theorem step_of_ordinary (units : i.rest = unit :: rest) (ordinary : unit.IsOrdinary) :
    step .traditional limit r unit i = .ok (r.operand (.atom (.char unit)), i.skip 1) := by
  rw [step, if_neg (ordinary '|' (by decide)), if_neg (ordinary ')' (by decide)),
    Quantifier.readAmount?_of_ordinary units ordinary]
  exact readOperand_of_ordinary ordinary

/-- Ordinary units are read as characters, one after the other. -/
theorem run_of_ordinary {fuel : Nat} {pieces : List Piece} (enough : i.rest.length ≤ fuel)
    (ordinary : ∀ unit ∈ i.rest, unit.IsOrdinary) :
    run .traditional limit fuel ⟨⟨[], pieces⟩, []⟩ i =
      .ok (.ofItems (Piece.assemble pieces (i.rest.map fun unit => .atom (.char unit)))) := by
  induction fuel generalizing i pieces with
  | zero =>
    have done : i.rest = [] := List.length_eq_zero_iff.1 (Nat.le_zero.1 enough)
    rw [done]
    rfl
  | succ fuel ih =>
    cases units : i.rest with
    | nil =>
      rw [run, units]
      rfl
    | cons unit rest =>
      have behind : (i.skip 1).rest = rest := by
        rw [Input.skip, units]
        rfl
      rw [units] at enough ordinary
      have first := ordinary unit List.mem_cons_self
      -- the unit becomes a piece, and the others are read as before
      have later (pieces : List Piece) :
          run .traditional limit fuel ⟨⟨[], pieces⟩, []⟩ (i.skip 1) = _ :=
        ih (behind ▸ Nat.le_of_succ_le_succ enough)
          (behind ▸ fun u mem => ordinary u (List.mem_cons_of_mem _ mem))
      rw [run, units]
      simp only [step_of_ordinary units first, bind, Except.bind]
      rw [operand, push, GroupBody.push, later, behind]
      rfl

end Reading

/-- The pattern that matches units one after the other. -/
def Pattern.ofUnits (units : List Text) : Pattern :=
  .ofItems (units.map fun unit => .atom (.char unit))

/-- A source without special characters is read as the sequence of its clusters. -/
theorem Pattern.parse_of_literal {source : Text} (literal : source.IsLiteral) (limit : Nat) :
    Pattern.parse source .traditional limit = .ok (.ofUnits source.clusters) :=
  Reading.run_of_ordinary (Nat.le_refl _) literal

end GraphemeRegex
