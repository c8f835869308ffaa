import GraphemeRegex.Proofs.Reading.Totality

/-! # Dialects — where the choice of a dialect shows

Each choice of a dialect is about one kind of unit: blanks, or double quotes. It is looked at only
where a unit of that kind comes next, so a source without such units is read alike with and without
it, up to the fault if there is one.

* `Dialect.Agree`: two dialects treat all units of a source alike.
* `Reading.step_of_agree`, `Reading.run_of_agree`: one step, and all of them.
* `Pattern.parse_of_no_marks`: sources without blanks, without double quotes, or without both.
-/

namespace GraphemeRegex

variable {source : Text} {dialect dialect' : Dialect} {limit : Nat} {i : Input}

/-! ## Agreement -/

/-- No cluster of the text is white space. -/
def Text.BlankFree (source : Text) : Prop :=
  ∀ unit ∈ source.clusters, Input.isBlankUnit unit = false

/-- No cluster of the text is a double quote alone. -/
def Text.QuoteFree (source : Text) : Prop := ['"'] ∉ source.clusters

instance (source : Text) : Decidable source.BlankFree :=
  inferInstanceAs (Decidable (∀ unit ∈ source.clusters, Input.isBlankUnit unit = false))

instance (source : Text) : Decidable source.QuoteFree :=
  inferInstanceAs (Decidable (['"'] ∉ source.clusters))

/-- Where two dialects differ, the source has no units that it would matter for. -/
structure Dialect.Agree (source : Text) (dialect dialect' : Dialect) : Prop where
  blanks : dialect.blanksAreTrivia = dialect'.blanksAreTrivia ∨ source.BlankFree
  quotes : dialect.quotedLiterals = dialect'.quotedLiterals ∨ source.QuoteFree

namespace Dialect.Agree

variable {unit : Text}

/-- A unit is a blank to be left out in both dialects or in neither. -/
theorem trivia_eq (h : Agree source dialect dialect') (mem : unit ∈ source.clusters) :
    (dialect.blanksAreTrivia && Input.isBlankUnit unit) =
      (dialect'.blanksAreTrivia && Input.isBlankUnit unit) := by
  rcases h.blanks with same | free
  · rw [same]
  · rw [free unit mem, Bool.and_false, Bool.and_false]

/-- A unit begins a literal in both dialects or in neither. -/
theorem literal_eq (h : Agree source dialect dialect') (mem : unit ∈ source.clusters) :
    (dialect.quotedLiterals && unit == ['"']) = (dialect'.quotedLiterals && unit == ['"']) := by
  rcases h.quotes with same | free
  · rw [same]
  · have other : (unit == ['"']) = false := by
      rw [beq_eq_false_iff_ne]
      rintro rfl
      exact free mem
    rw [other, Bool.and_false, Bool.and_false]

end Dialect.Agree

/-! ## Reading -/

namespace Reading

variable {r : Reading} {unit : Text} {rest : List Text}

/-- Of all operands, only literals depend on the dialect. -/
theorem readOperand_of_agree (h : Dialect.Agree source dialect dialect')
    (mem : unit ∈ source.clusters) :
    readOperand dialect limit r unit i = readOperand dialect' limit r unit i := by
  unfold readOperand
  rw [h.literal_eq mem]

/-- Dialects that agree on a source read each of its units alike. -/
theorem step_of_agree (h : Dialect.Agree source dialect dialect') (mem : unit ∈ source.clusters) :
    step dialect limit r unit i = step dialect' limit r unit i := by
  unfold step
  rw [h.trivia_eq mem, readOperand_of_agree h mem]

/-- Dialects that agree on a source come to the same wherever reading stands. -/
theorem run_of_agree {fuel : Nat} (h : Dialect.Agree source dialect dialect')
    (fits : r.Fits source limit i) :
    run dialect limit fuel r i = run dialect' limit fuel r i := by
  induction fuel generalizing r i with
  | zero => rfl
  | succ fuel ih =>
    cases units : i.rest with
    | nil => rw [run_of_nil units, run_of_nil units]
    | cons unit rest =>
      -- what comes next is a cluster of the source, where the dialects agree
      have mem : unit ∈ source.clusters := fits.of.mem_clusters (units ▸ List.mem_cons_self)
      unfold run
      rw [units]
      dsimp only
      rw [step_of_agree h mem]
      cases stepped : step dialect' limit r unit i with
      | error e => rfl
      | ok found => exact ih ((fits.step units).of_eq_ok stepped).fits

end Reading

namespace Pattern

/-- A source on which two dialects agree is read alike. -/
theorem parse_of_agree (h : Dialect.Agree source dialect dialect') (limit : Nat) :
    parse source dialect limit = parse source dialect' limit :=
  Reading.run_of_agree h (.start source limit)

/-- A source without blanks and double quotes is read alike in all dialects: to the same tree, or to
the same fault in the same place. Without double quotes it does not matter whether they quote, and
without blanks it does not matter whether they are trivia, whatever the other choice is. -/
theorem parse_of_no_marks (source : Text) (limit : Nat) :
    (source.BlankFree → source.QuoteFree → ∀ dialect dialect' : Dialect,
      parse source dialect limit = parse source dialect' limit) ∧
    (source.QuoteFree → ∀ blanks quotes quotes' : Bool,
      parse source ⟨blanks, quotes⟩ limit = parse source ⟨blanks, quotes'⟩ limit) ∧
    (source.BlankFree → ∀ blanks blanks' quotes : Bool,
      parse source ⟨blanks, quotes⟩ limit = parse source ⟨blanks', quotes⟩ limit) := by
  refine ⟨fun blankFree quoteFree dialect dialect' => ?_, fun quoteFree blanks quotes quotes' => ?_,
    fun blankFree blanks blanks' quotes => ?_⟩
  · -- where a choice is the same or has no units to show at
    exact parse_of_agree ⟨.inr blankFree, .inr quoteFree⟩ limit
  · have agree : Dialect.Agree source ⟨blanks, quotes⟩ ⟨blanks, quotes'⟩ :=
      ⟨.inl rfl, .inr quoteFree⟩
    exact parse_of_agree agree limit
  · have agree : Dialect.Agree source ⟨blanks, quotes⟩ ⟨blanks', quotes⟩ :=
      ⟨.inr blankFree, .inl rfl⟩
    exact parse_of_agree agree limit

/-- A blank that a combining mark has joined is no blank, whether the group around it is closed or
not. -/
theorem parse_of_marked_blank :
    (Text.BlankFree "(a \u0308|[b-d]+)".toList ∧ Text.QuoteFree "(a \u0308|[b-d]+)".toList ∧
      parse "(a \u0308|[b-d]+)".toList .traditional 2 =
        parse "(a \u0308|[b-d]+)".toList .experimental 2) ∧
    (Text.QuoteFree "(a \u0308|[b-d] +".toList ∧
      parse "(a \u0308|[b-d] +".toList ⟨true, false⟩ 2 =
        parse "(a \u0308|[b-d] +".toList ⟨true, true⟩ 2) ∧
    (Text.BlankFree "(a \u0308|\"[b-d]\"".toList ∧
      parse "(a \u0308|\"[b-d]\"".toList ⟨false, true⟩ 2 =
        parse "(a \u0308|\"[b-d]\"".toList ⟨true, true⟩ 2) := by
  refine ⟨⟨by decide +kernel, by decide +kernel, ?_⟩, ⟨by decide +kernel, ?_⟩,
    ⟨by decide +kernel, ?_⟩⟩
  · exact (parse_of_no_marks _ 2).1 (by decide +kernel) (by decide +kernel) _ _
  · exact (parse_of_no_marks _ 2).2.1 (by decide +kernel) _ _ _
  · exact (parse_of_no_marks _ 2).2.2 (by decide +kernel) _ _ _

end Pattern

end GraphemeRegex
