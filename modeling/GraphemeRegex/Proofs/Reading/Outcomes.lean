import GraphemeRegex.Proofs.Reading.Readable
import GraphemeRegex.Proofs.Reading.Shape
import GraphemeRegex.Proofs.Reading.Span

/-! # Outcomes — what reading a part of a pattern comes to

Each function that reads a part either finds something of the right shape and leaves an input behind
it, or it fails with an error that is placed in the source.

* `Escape.outcome_read`: escapes.
* `Opening.outcome_read`: what a parenthesis opens.
* `Quantifier.past_readAmount?`: amounts.
-/

namespace GraphemeRegex

open Text

variable {source : Text} {start : Nat} {i j : Input}

/-! ## Names -/

namespace Input

/-- What may stand in a name is a letter, a digit or an underscore. -/
theorem isName_of_isNameUnit {unit : Text} (h : isNameUnit unit = true) {c : Char}
    (mem : c ∈ unit) : Property.alphanumeric.holds c = true ∨ c = '_' := by
  unfold isNameUnit at h
  split at h
  case h_1 d =>
    rw [List.mem_singleton.1 mem]
    simpa using h
  case h_2 => cases h

/-- A name is read and is proper, or its absence is a fault from the start of the construct. -/
theorem Past.readName (h : i.Past source start) :
    source.Yields start IsName (i.readName start) := by
  unfold Input.readName
  split
  case h_1 j found =>
    have here := h.spanWhile isNameUnit
    rw [found] at here
    exact here.errorFrom _
  case h_2 filled =>
    -- all that was taken passed the test, and there is something
    refine ⟨⟨fun none => filled (i.spanWhile isNameUnit).2 (Prod.ext none rfl), ?_⟩,
      h.spanWhile isNameUnit⟩
    intro c mem
    obtain ⟨unit, taken, mem⟩ := List.mem_flatten.1 mem
    exact isName_of_isNameUnit (List.all_eq_true.1 List.all_takeWhile unit taken) mem

end Input

/-! ## Escapes -/

namespace Escape

/-- A fixed number of digits. Of the scalars that escapes denote only the place matters here, as
they are always proper. -/
theorem outcome_readFixed {radix : Radix} {count : Nat} (h : i.Past source start) :
    source.Yields start (fun _ => True) (readFixed radix count start i) := by
  have here := h.spanUpTo count radix.isDigitUnit
  unfold readFixed
  dsimp only
  split
  · exact here.errorFrom _
  · exact here.locate.bind fun c _ => ⟨trivial, here⟩

/-- Digits in braces: the closing brace must be there, and something in front of it. -/
theorem outcome_readBraced {radix : Radix} (h : i.Past source start) :
    source.Yields start (fun _ => True) (readBraced radix start i) := by
  unfold readBraced
  refine ((h.spanWhile _).expect _).bind fun j here => ?_
  dsimp only
  split
  · exact here.errorFrom _
  · exact here.locate.bind fun c _ => ⟨trivial, here⟩

/-- Hexadecimal digits, with braces or without. -/
theorem outcome_readHex {count : Nat} (h : i.Past source start) :
    source.Yields start (fun _ => True) (readHex count start i) := by
  unfold readHex
  split
  case h_1 j found => exact outcome_readBraced (h.accept? found)
  case h_2 => exact outcome_readFixed h

/-- At most two octal digits; without any, the scalar is the null character. -/
theorem outcome_readOctal (h : i.Past source start) :
    source.Yields start (fun _ => True) (readOctal start i) := by
  have here := h.spanUpTo 2 Radix.octal.isDigitUnit
  unfold readOctal
  dsimp only
  split
  · exact ⟨trivial, here⟩
  · exact here.locate.bind fun c _ => ⟨trivial, here⟩

/-- A control character and the scalar that names it. -/
theorem outcome_readControl (h : i.Past source start) :
    source.Yields start (fun _ => True) (readControl start i) := by
  unfold readControl
  split
  · exact h.errorFrom _
  · dsimp only
    split
    · exact ⟨trivial, h.skip 1⟩
    · exact (h.skip 1).errorFrom _

/-- The text between the braces of a property. -/
theorem outcome_readPropertyName (h : i.Past source start) :
    source.Yields start (fun _ => True) (readPropertyName start i) := by
  unfold readPropertyName
  split
  case h_1 j found =>
    exact (((h.accept? found).spanWhile _).expect _).bind fun j here => ⟨trivial, here⟩
  case h_2 =>
    split
    · exact h.errorFrom _
    · exact ⟨trivial, h.skip 1⟩

/-- Whether the property is known or not, what stands for it is proper. -/
theorem proper_propertyAtom (name : Text) (inverted : Bool) :
    (propertyAtom name inverted).Proper source := by
  unfold propertyAtom
  split <;> exact trivial

/-- A property, whose name may not be empty. -/
theorem outcome_readProperty {inverted : Bool} (h : i.Past source start) :
    source.Yields start (Atom.Proper source) (readProperty inverted start i) := by
  unfold readProperty
  refine (outcome_readPropertyName h).bind fun written j _ here => ?_
  dsimp only
  -- with a caret, and without
  split
  all_goals
    split
    · exact here.errorFrom _
    · exact ⟨proper_propertyAtom _ _, here⟩

/-! ### References -/

/-- A name between apostrophes, angles or braces. -/
theorem outcome_readNamedReference (h : i.Past source start) :
    source.Yields start Reference.Proper (readNamedReference start i) := by
  unfold readNamedReference
  split
  -- none of the three marks comes next
  case h_4 => exact h.of.errorHere _
  all_goals
    refine (h.skip 1).readName.bind fun name j proper here => ?_
    exact (here.expect _).bind fun j here => ⟨proper, here⟩

/-- A reference by a signed number, by a bare one or by name. -/
theorem outcome_readReferenceBody {braced : Bool} (h : i.Past source start) :
    source.Yields start Reference.Proper (readReferenceBody braced start i) := by
  have other : source.Yields start Reference.Proper
      (readReferenceBody.readOther braced start i) := by
    unfold readReferenceBody.readOther
    split
    · exact h.readName.bind fun name j proper here => ⟨proper, here⟩
    · exact h.of.errorHere _
  unfold readReferenceBody
  -- a name, or nothing that a reference could be
  split
  case h_4 => exact other
  case h_3 =>
    split
    · have here := h.spanDigits .decimal
      exact here.locate.bind fun n _ => ⟨trivial, here⟩
    · exact other
  -- a sign, and digits behind it
  all_goals
    have here := (h.skip 1).spanDigits .decimal
    exact here.locate.bind fun n _ => ⟨trivial, here⟩

/-- A reference with braces around it or without. -/
theorem outcome_readReference (h : i.Past source start) :
    source.Yields start Reference.Proper (readReference start i) := by
  unfold readReference
  split
  case h_1 j found =>
    refine (outcome_readReferenceBody (h.accept? found)).bind fun r k proper here => ?_
    exact (here.expect _).bind fun j here => ⟨proper, here⟩
  case h_2 => exact outcome_readReferenceBody h

theorem outcome_readBackreference (h : i.Past source start) :
    source.Yields start Reference.Proper (readBackreference start i) := by
  have here := h.spanDigits .decimal
  exact here.locate.bind fun n _ => ⟨trivial, here⟩

/-! ### All escapes -/

/-- A quote ends at its mark, or with the source if there is none. -/
theorem past_readQuote (h : i.Past source start) : (readQuote i).2.Past source start := by
  have body := h.skip (beforeQuoteEnd i.rest).length
  unfold readQuote
  dsimp only
  cases close : (i.skip (beforeQuoteEnd i.rest).length).acceptAll? ['\\', 'E'] with
  | none => exact body
  | some k => exact body.acceptAll? close

/-- A letter that stands for a place in the subject. -/
theorem outcome_readPlace {c : Char} (h : i.Past source start) :
    source.Yields start (Atom.Proper source) (readPlace c start i) := by
  unfold readPlace
  split
  · exact ⟨trivial, h.skip 1⟩
  · split
    · exact (outcome_readNamedReference (h.skip 1)).bind fun r j proper here => ⟨proper, here⟩
    · exact (outcome_readReference (h.skip 1)).bind fun r j proper here => ⟨proper, here⟩
    · exact (outcome_readBackreference h).bind fun r j proper here => ⟨proper, here⟩

/-- An escape that denotes a scalar is an atom. -/
theorem outcome_scalar {found : Except ReadError (Char × Input)}
    (h : source.Yields start (fun _ => True) found) :
    source.Yields start (Atom.Proper source) (readAtom.scalar found) :=
  h.bind fun _ _ _ here => ⟨trivial, here⟩

/-- Each letter has its own kind of escape; the order of the cases is the one in which they are
tried. The letter itself is still to be read, so that one without a meaning stands for itself as a
cluster of the source. -/
theorem outcome_readAtom {inClass : Bool} {c : Char} (h : i.Past source start)
    (letter : [c] ∈ i.rest) :
    source.Yields start (Atom.Proper source) (readAtom inClass c start i) := by
  have next := h.skip 1
  unfold readAtom
  dsimp only
  split
  · exact ⟨trivial, next⟩
  · split
    · exact ⟨trivial, next⟩
    · split
      · exact ⟨trivial, next⟩
      · split
        · split
          · exact next.errorFrom _
          · -- inside brackets there are no places
            exact outcome_readPlace h
        · split
          · exact outcome_scalar (outcome_readOctal next)
          · exact outcome_scalar (outcome_readHex next)
          · exact outcome_scalar (outcome_readHex next)
          · exact outcome_scalar (outcome_readFixed next)
          · exact outcome_scalar ((next.expect _).bind fun j here => outcome_readBraced here)
          · exact outcome_scalar (outcome_readControl next)
          · exact outcome_readProperty next
          · exact outcome_readProperty next
          · split
            · exact next.errorFrom _
            · -- what is left stands for itself, unless it is an ASCII letter without a meaning
              exact ⟨⟨h.of.mem_clusters letter, List.cons_ne_nil _ _⟩, next⟩

/-- What an escape stands for is proper. -/
def Proper (source : Text) : Escape → Prop
  | atom a => a.Proper source
  | quote _ => True

/-- An escape is proper, and a backslash at the end of the source is a fault. -/
theorem outcome_read {inClass : Bool} {unit : Text} {rest : List Text} (h : i.Of source)
    (units : i.rest = unit :: rest) :
    source.Yields i.offset (Escape.Proper source) (Escape.read inClass i) := by
  have past : (i.skip 1).Past source i.offset := h.past_skip units 0
  unfold Escape.read
  dsimp only
  split
  · exact past.errorFrom _
  · -- a quote
    exact ⟨trivial, past_readQuote (past.skip 1)⟩
  case h_3 c rest' _ here =>
    have letter : [c] ∈ (i.skip 1).rest := here ▸ List.mem_cons_self
    exact (outcome_readAtom past letter).bind fun a j proper here => ⟨proper, here⟩
  case h_4 unit' rest' _ _ here =>
    have mem : unit' ∈ (i.skip 1).rest := here ▸ List.mem_cons_self
    exact ⟨⟨past.of.mem_clusters mem, past.of.ne_nil mem⟩, past.skip 1⟩

end Escape

/-! ## Openings -/

namespace Opening

/-- What is opened is proper; a group that has parentheses is no scope. -/
def Proper : Opening → Prop
  | comment _ => True
  | group kind => kind.Proper ∧ kind.isImplicit = false
  | scope change => change.Proper

/-- An option is one letter or two; a choice of segments is a word in braces. In any case something
has been read. -/
theorem past_of_readOption? (h : i.Of source) :
    source.Reads (fun found => ∀ option next, found = some (option, next) →
      next.Past source i.offset) (readOption? i) := by
  unfold readOption?
  split
  case h_1 units =>
    rintro option next ⟨⟩
    exact h.past_skip units 1
  case h_2 units =>
    rintro option next ⟨⟩
    exact h.past_skip units 0
  case h_3 units =>
    -- the choice of segments, from its letter to its closing brace
    have past : (i.skip 1).Past source i.offset := h.past_skip units 0
    refine (past.expect _).bind fun j here => ?_
    dsimp only
    split
    case h_3 => exact here.of.errorHere _
    all_goals
      refine ((here.skip 1).expect _).bind fun k there => ?_
      rintro option next ⟨⟩
      exact there
  case h_4 units =>
    intro option next found
    obtain ⟨option', _, found⟩ := Option.map_eq_some_iff.1 found
    cases found
    exact h.past_skip units 0
  case h_5 => exact nofun

/-- Options are read until something else comes next. -/
theorem outcome_readOptions {removing : Bool} {fuel : Nat} (h : i.Past source start) :
    source.Yields start (fun _ => True) (readOptions removing fuel i) := by
  induction fuel generalizing i with
  | zero => exact ⟨trivial, h⟩
  | succ fuel ih =>
    unfold readOptions
    refine (past_of_readOption? h.of).bind fun found past => ?_
    cases found with
    | none => exact ⟨trivial, h⟩
    | some found =>
      obtain ⟨option, next⟩ := found
      have moved := past option next rfl
      dsimp only
      split
      · -- a choice of segments cannot be removed
        exact moved.errorFrom _
      · exact (ih (h.trans moved)).bind fun options j _ here => ⟨trivial, here⟩

/-- At the end of the source there are no options. -/
theorem readOptions_of_nil {removing : Bool} {fuel : Nat} (done : i.rest = []) :
    readOptions removing fuel i = .ok ([], i) := by
  cases fuel with
  | zero => rfl
  | succ fuel =>
    unfold readOptions readOption?
    rw [done]
    rfl

/-- As much fuel as there are units is never used up, so that more changes nothing. -/
theorem readOptions_eq_of_length_le {removing : Bool} {fuel fuel' : Nat} (h : i.Of source)
    (enough : i.rest.length ≤ fuel) (enough' : i.rest.length ≤ fuel') :
    readOptions removing fuel i = readOptions removing fuel' i := by
  refine eq_of_enough (f := readOptions removing) (w := fun i => i.rest.length)
    (P := Input.Of source) (fun i none n m => ?_) (fun i h n m ih => ?_) h enough enough'
  · have done : i.rest = [] := List.length_eq_zero_iff.1 none
    rw [readOptions_of_nil done, readOptions_of_nil done]
  · unfold readOptions
    cases first : readOption? i with
    | error e => rfl
    | ok found =>
      cases found with
      | none => rfl
      | some found =>
        obtain ⟨option, next⟩ := found
        -- an option that was read leaves fewer units for the rest
        have moved := (past_of_readOption? h).of_eq_ok first option next rfl
        have same := ih next moved.of (moved.length_lt h)
        show (if _ then _ else _) = (if _ then _ else _)
        rw [same]

/-- The options behind a hyphen, which must not stand behind a caret. -/
theorem outcome_readRemoved {caret : Bool} (h : i.Past source start) :
    source.Yields start (fun _ => True) (readRemoved caret i) := by
  unfold readRemoved
  split
  · exact ⟨trivial, h⟩
  case h_2 next found =>
    split
    · exact h.of.errorHere _
    · exact outcome_readOptions (h.accept? found)

/-- A change that can be told from its spelling is proper. -/
theorem proper_of_isReadable {change : OptionSequence} (h : change.isReadable = true) :
    change.Proper := by
  simp only [OptionSequence.isReadable, Bool.and_eq_true, List.all_eq_true] at h
  obtain ⟨⟨_, kept⟩, filled⟩ := h
  refine ⟨fun plain => ?_, fun caret => ?_, fun option mem => ?_⟩
  · rw [plain, if_neg Bool.false_ne_true, Bool.not_eq_true', Bool.and_eq_false_iff] at filled
    exact filled.imp List.isEmpty_eq_false_iff.1 List.isEmpty_eq_false_iff.1
  · rw [caret, if_pos rfl] at filled
    exact List.isEmpty_iff.1 filled
  · exact Bool.not_eq_true' _ ▸ kept option mem

/-- A change of options: a caret, options and removed options, up to the parenthesis or the
colon. -/
theorem past_readChange (h : i.Past source start) :
    source.Yields start (fun _ => True) (readChange start i) := by
  unfold readChange
  split
  rename_i caret i₀ marked
  -- with a caret, and without
  have past : i₀.Past source start := by
    split at marked
    case h_1 i' found =>
      cases marked
      exact h.accept? found
    case h_2 =>
      cases marked
      exact h
  refine (outcome_readOptions past).bind fun adding i₁ _ past₁ => ?_
  refine (outcome_readRemoved past₁).bind fun removing i₂ _ past₂ => ?_
  dsimp only
  split
  · exact past₂.errorFrom _
  · split
    · exact ⟨trivial, past₂.skip 1⟩
    · exact ⟨trivial, past₂.skip 1⟩
    · exact past₂.of.errorHere _

/-- A change of options that ends with a colon opens a group; one that ends with a parenthesis is a
scope. -/
theorem outcome_readChange (h : i.Past source start) :
    source.Yields start Opening.Proper (readChange start i) := by
  have proper (found : Opening × Input) (read : readChange start i = .ok found) :
      found.1.Proper := by
    obtain ⟨change, implicit, opening, readable⟩ := isReadable_of_readChange read
    rw [opening]
    cases implicit with
    | true => exact proper_of_isReadable readable
    | false => exact ⟨proper_of_isReadable readable, rfl⟩
  exact ((past_readChange h).and proper).imp fun found fine => ⟨fine.2, fine.1.2⟩

/-- The kinds of groups that a single sign stands for are proper. -/
theorem proper_of_kind? {c : Char} {kind : GroupKind} (h : kind? c = some kind) :
    kind.Proper ∧ kind.isImplicit = false := by
  unfold kind? at h
  split at h
  case h_7 => cases h
  all_goals
    cases h
    exact ⟨trivial, rfl⟩

/-- A name up to the sign that closes it. -/
theorem outcome_readNamed {close : Char} (h : i.Past source start) :
    source.Yields start Opening.Proper (readNamed close start i) := by
  refine h.readName.bind fun name j proper here => ?_
  exact (here.expect _).bind fun j here => ⟨⟨proper, rfl⟩, here⟩

/-- What stands between the question mark and the body of a group. The signs of several letters are
tried before those of one. -/
theorem outcome_readSpecifier (h : i.Past source start) :
    source.Yields start Opening.Proper (readSpecifier start i) := by
  unfold readSpecifier
  split
  -- names
  case h_4 | h_5 | h_6 => exact outcome_readNamed (h.skip _)
  -- a comment
  case h_7 =>
    have here := (h.skip 1).spanWhile (· != [')'])
    dsimp only
    split
    case h_1 j found => exact ⟨trivial, here.accept? found⟩
    case h_2 => exact here.errorFrom _
  -- one sign, or a change of options
  case h_8 =>
    split
    case h_1 kind found => exact ⟨proper_of_kind? found, h.skip 1⟩
    case h_2 => exact outcome_readChange h
  case h_9 => exact outcome_readChange h
  all_goals exact ⟨⟨trivial, rfl⟩, h.skip _⟩

/-- What a parenthesis opens; an asterisk behind it begins a script run. -/
theorem outcome_read {unit : Text} {rest : List Text} (h : i.Of source)
    (units : i.rest = unit :: rest) :
    source.Yields i.offset Opening.Proper (Opening.read i) := by
  have past : (i.skip 1).Past source i.offset := h.past_skip units 0
  unfold Opening.read
  dsimp only
  split
  · exact outcome_readSpecifier (past.skip 1)
  · split
    case h_1 j _ found => exact ⟨⟨trivial, rfl⟩, (past.skip 1).acceptAll? found⟩
    case h_2 j _ found => exact ⟨⟨trivial, rfl⟩, (past.skip 1).acceptAll? found⟩
    case h_3 => exact (past.skip 1).errorFrom _
  · exact ⟨⟨trivial, rfl⟩, past⟩

end Opening

/-! ## Quantifiers -/

/-- Reading a bound that comes next gets past its opening brace. -/
theorem Bound.past_read (h : i.Of source) (next : comesNext i = true) :
    (read i).2.Past source i.offset := by
  obtain ⟨unit, rest, units⟩ : ∃ unit rest, i.rest = unit :: rest := by
    rw [comesNext_iff_read] at next
    exact ⟨_, _, next.2⟩
  have low := (h.past_skip units 0).spanDigits .decimal
  unfold read
  dsimp only
  -- with a comma, and without
  split
  case h_1 i' comma => exact ((low.accept? comma).spanDigits .decimal).skip 1
  case h_2 => exact (low.spanDigits .decimal).skip 1

namespace Quantifier

/-- An amount takes at least one unit. -/
theorem past_readAmount? {amount : Except ReadFault Amount} (h : i.Of source)
    (found : readAmount? i = some (amount, j)) : j.Past source i.offset := by
  unfold readAmount? at found
  split at found
  case h_4 =>
    split at found
    case isTrue next =>
      cases found
      exact Bound.past_read h next
    case isFalse => cases found
  all_goals
    cases found
    exact h.past_skip ‹_› 0

/-- The mark behind an amount may be missing. -/
theorem past_readGreed (h : i.Past source start) : (readGreed i).2.Past source start := by
  unfold readGreed
  split
  · exact h.skip 1
  · exact h.skip 1
  · exact h

end Quantifier

end GraphemeRegex
