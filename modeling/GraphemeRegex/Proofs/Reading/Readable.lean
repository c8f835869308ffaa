import GraphemeRegex.Proofs.Pattern.Releveling
import GraphemeRegex.Proofs.Reading.Openings
import GraphemeRegex.Proofs.Reading.Operands

/-! # Readable — what is read can be told from its spelling

The classes, changes of options and amounts that reading gives are just those that are read back.

* `Escape.isEscaped_of_read`: classes.
* `Opening.isReadable_of_readChange`: changes of options.
* `Quantifier.isReadable_of_readAmount?`: amounts.
-/

namespace GraphemeRegex

variable {i next : Input} {start : Nat}

/-! ## Classes -/

namespace Escape

variable {inClass : Bool} {c : Char} {cls : CharClass}

/-- The classes with a letter of their own. -/
theorem isEscaped_of_class? (h : class? c = some cls) : cls.isEscaped = true := by
  unfold class? at h
  split at h <;> cases h <;> rfl

/-- The properties that have a class. -/
theorem isEscaped_of_propertyAtom {name : Text} {inverted : Bool}
    (h : propertyAtom name inverted = .cls cls) : cls.isEscaped = true := by
  unfold propertyAtom at h
  split at h
  · cases h
    rfl
  · cases h

/-- A property is read to its closing brace. -/
theorem isEscaped_of_readProperty {inverted : Bool}
    (h : readProperty inverted start i = .ok (.cls cls, next)) : cls.isEscaped = true := by
  obtain ⟨⟨written, i'⟩, _, h⟩ := exists_of_bind_eq_ok h
  simp only at h
  split at h
  · split at h
    · cases h
    · exact isEscaped_of_propertyAtom (congrArg Prod.fst (Except.ok.inj h))
  · split at h
    · cases h
    · exact isEscaped_of_propertyAtom (congrArg Prod.fst (Except.ok.inj h))

/-- A scalar with a number is no class. -/
theorem readScalar_ne_cls {found : Except ReadError (Char × Input)} :
    readAtom.scalar found ≠ .ok (.cls cls, next) := by
  intro h
  obtain ⟨⟨c, i'⟩, _, h⟩ := exists_of_bind_eq_ok h
  cases h

/-- A place is no class. -/
theorem readPlace_ne_cls : readPlace c start i ≠ .ok (.cls cls, next) := by
  intro h
  simp only [readPlace] at h
  split at h
  · cases h
  · split at h
    all_goals
      obtain ⟨⟨c, i'⟩, _, h⟩ := exists_of_bind_eq_ok h
      cases h

/-- Classes come from letters and from properties only. -/
theorem isEscaped_of_readAtom
    (h : readAtom inClass c start i = .ok (.cls cls, next)) : cls.isEscaped = true := by
  simp only [readAtom] at h
  split at h
  · cases h
    exact isEscaped_of_class? ‹_›
  · split at h
    · cases h
    · split at h
      · cases h
      · split at h
        · split at h
          · cases h
          · exact absurd h readPlace_ne_cls
        · split at h
          case h_7 | h_8 => exact isEscaped_of_readProperty h
          case h_9 => split at h <;> cases h
          -- the other letters stand for scalars
          all_goals exact absurd h readScalar_ne_cls

/-- Every class that an escape stands for is one of those that can be told from their spelling. -/
theorem isEscaped_of_read
    (h : Escape.read inClass i = .ok (.atom (.cls cls), next)) : cls.isEscaped = true := by
  simp only [Escape.read] at h
  split at h
  · cases h
  · cases h
  · obtain ⟨⟨a, i'⟩, atom, h⟩ := exists_of_bind_eq_ok h
    cases h
    exact isEscaped_of_readAtom atom
  · cases h
end Escape

/-! ## Changes of options -/

namespace Opening

/-- An `x` is read together with another one behind it. -/
theorem of_readOption? {option : MatchOption}
    (h : readOption? i = .ok (some (option, next))) :
    (option = .extended ∨ option = .extraExtended → i.rest.head? = some ['x']) ∧
      (option = .extended → next.rest.head? ≠ some ['x']) := by
  unfold readOption? at h
  split at h
  case h_1 rest units =>
    rw [units]
    exact ⟨fun _ => rfl, fun same => by cases h; cases same⟩
  -- a single `x`, with something else behind it
  case h_2 rest apart units =>
    cases h
    rw [units]
    refine ⟨fun _ => rfl, fun _ second => ?_⟩
    have behind : rest.head? = some ['x'] := by
      rw [Input.skip, units] at second
      exact second
    obtain ⟨rest', rfl⟩ := List.head?_eq_some_iff.1 behind
    exact apart rest' rfl
  case h_3 rest units =>
    obtain ⟨i₁, _, h⟩ := exists_of_bind_eq_ok h
    -- the choices of segments, which are no `x`
    have segments : option = .graphemeSegments ∨ option = .wordSegments := by
      simp only at h
      split at h
      · obtain ⟨found, chosen, h⟩ := exists_of_bind_eq_ok h
        obtain ⟨i₃, _, h⟩ := exists_of_bind_eq_ok h
        cases chosen
        cases h
        exact .inl rfl
      · obtain ⟨found, chosen, h⟩ := exists_of_bind_eq_ok h
        obtain ⟨i₃, _, h⟩ := exists_of_bind_eq_ok h
        cases chosen
        cases h
        exact .inr rfl
      · cases h
    rcases segments with rfl | rfl <;> simp
  case h_4 c rest one two three units =>
    obtain ⟨option', letter, h⟩ := Option.map_eq_some_iff.1 (Except.ok.inj h)
    cases h
    -- the other letters are no `x`, either
    have other : option ≠ .extended ∧ option ≠ .extraExtended := by
      unfold MatchOption.ofLetter? at letter
      split at letter <;> cases letter <;> decide
    refine ⟨?_, fun same => absurd same other.1⟩
    rintro (same | same)
    · exact absurd same other.1
    · exact absurd same other.2
  case h_5 => cases h

/-- An option may stand in front of others unless the two would be read as one. -/
theorem areApart_cons {option : MatchOption} {options : List MatchOption}
    (h : MatchOption.areApart options = true)
    (first : ∀ b, options.head? = some b → option = .extended →
      ¬ (b = .extended ∨ b = .extraExtended)) :
    MatchOption.areApart (option :: options) = true := by
  cases options with
  | nil => rfl
  | cons b options =>
    have other := first b rfl
    rw [MatchOption.areApart, h, Bool.and_true]
    by_cases single : option = .extended
    · simpa [single] using other single
    · simp [single]

/-- The options that are read are apart, and no choice of segments is removed. -/
theorem areApart_of_readOptions {removing : Bool} {fuel : Nat} {options : List MatchOption}
    (h : readOptions removing fuel i = .ok (options, next)) :
    MatchOption.areApart options = true ∧
      (removing = true → options.all (!·.isSegmentation) = true) ∧
      ∀ b, options.head? = some b → b = .extended ∨ b = .extraExtended →
        i.rest.head? = some ['x'] := by
  induction fuel generalizing i options with
  | zero =>
    cases h
    exact ⟨rfl, fun _ => rfl, nofun⟩
  | succ fuel ih =>
    obtain ⟨found, first, h⟩ := exists_of_bind_eq_ok h
    match found with
    | none =>
      cases h
      exact ⟨rfl, fun _ => rfl, nofun⟩
    | some (option, i₁) =>
      -- an `x` that was read by itself had no `x` behind it
      obtain ⟨here, alone⟩ := of_readOption? first
      simp only at h
      split at h
      · cases h
      case isFalse allowed =>
        obtain ⟨⟨others, i₂⟩, later, h⟩ := exists_of_bind_eq_ok h
        cases h
        obtain ⟨apart, kept, start⟩ := ih later
        refine ⟨areApart_cons apart fun b head single second => ?_, fun remove => ?_, ?_⟩
        · exact alone single (start b head second)
        · rw [List.all_cons, kept remove, Bool.and_true]
          simpa [remove] using allowed
        · rintro b ⟨⟩
          exact here

/-- Behind a caret nothing is removed, and segments never are. -/
theorem of_readRemoved {caret : Bool} {options : List MatchOption}
    (h : readRemoved caret i = .ok (options, next)) :
    MatchOption.areApart options = true ∧ options.all (!·.isSegmentation) = true ∧
      (caret = true → options = []) := by
  simp only [readRemoved] at h
  split at h
  · cases h
    exact ⟨rfl, rfl, fun _ => rfl⟩
  · split at h
    · cases h
    case isFalse allowed =>
      obtain ⟨apart, kept, _⟩ := areApart_of_readOptions h
      exact ⟨apart, kept rfl, fun caret => absurd caret allowed⟩

/-- Every change of options that is read can be told from its spelling. -/
theorem isReadable_of_readChange {opening : Opening}
    (h : readChange start i = .ok (opening, next)) :
    ∃ change implicit, opening = ofChange change implicit ∧ change.isReadable = true := by
  unfold readChange at h
  split at h
  rename_i caret i₀ marked
  obtain ⟨⟨adding, i₁⟩, added, h⟩ := exists_of_bind_eq_ok h
  obtain ⟨⟨removing, i₂⟩, removed, h⟩ := exists_of_bind_eq_ok h
  obtain ⟨apart, _, _⟩ := areApart_of_readOptions added
  obtain ⟨apart', kept, resets⟩ := of_readRemoved removed
  simp only at h
  split at h
  · cases h
  case isFalse filled =>
    -- without a caret, something is changed
    have readable : OptionSequence.isReadable ⟨caret, adding, removing⟩ = true := by
      rw [OptionSequence.isReadable, apart, apart', kept]
      cases caret with
      | true => simp [resets rfl]
      | false =>
        rw [Bool.not_false, Bool.true_and, Bool.not_eq_true] at filled
        rw [if_neg Bool.false_ne_true, filled]
        rfl
    split at h
    · cases h
      exact ⟨_, false, rfl, readable⟩
    · cases h
      exact ⟨_, true, rfl, readable⟩
    · cases h

end Opening

/-! ## Amounts -/

/-- A number that is read is in range. -/
theorem Radix.lt_of_number {radix : Radix} {digits : Text} {n : Nat}
    (h : radix.number digits = .ok n) : n < 0x100000000 := by
  unfold number at h
  split at h
  · cases h
  · split at h
    case isTrue small =>
      cases h
      exact small
    · cases h

/-- The bounds of an amount are numbers that were read. -/
theorem Bound.isReadable_of_amount {bound : Bound} {amount : Amount}
    (h : bound.amount = .ok amount) : amount.isReadable = true := by
  unfold Bound.amount at h
  split at h
  case h_1 | h_2 | h_4 =>
    obtain ⟨n, found, h⟩ := exists_of_bind_eq_ok h
    cases h
    exact decide_eq_true (Radix.lt_of_number found)
  case h_3 =>
    obtain ⟨low, found, h⟩ := exists_of_bind_eq_ok h
    obtain ⟨high, found', h⟩ := exists_of_bind_eq_ok h
    cases h
    exact Bool.and_eq_true_iff.2 ⟨decide_eq_true (Radix.lt_of_number found),
      decide_eq_true (Radix.lt_of_number found')⟩

/-- Every amount that is read can be told from its spelling. -/
theorem Quantifier.isReadable_of_readAmount? {amount : Amount}
    (h : readAmount? i = some (.ok amount, next)) : amount.isReadable = true := by
  unfold readAmount? at h
  split at h
  case h_4 =>
    split at h
    case isTrue =>
      have amount := congrArg Prod.fst (Option.some.inj h)
      exact Bound.isReadable_of_amount amount
    case isFalse => cases h
  all_goals
    cases h
    rfl

end GraphemeRegex
