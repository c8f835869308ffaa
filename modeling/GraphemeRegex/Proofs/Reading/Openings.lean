import GraphemeRegex.Proofs.Reading.Spelling
import GraphemeRegex.Reading.Opening

/-! # Openings — reading back what opens a group

* `Opening.readOptions_plain`: the letters of some options.
* `Opening.readChange_plain`: a change of options.
* `Opening.read_plain`: the opening of a group.
* `Opening.read_plain_scope`, `Opening.read_plain_comment`: the openings without a body.
-/

namespace GraphemeRegex

namespace Opening

open Input

variable {o start : Nat} {c : Char} {more : Text}

/-! ## Options -/

/-- The letters of some options. -/
def letters (options : List MatchOption) : Text :=
  options.flatMap (·.spelling.toList)

theorem letters_cons (option : MatchOption) (options : List MatchOption) :
    letters (option :: options) = option.spelling.toList ++ letters options := rfl

/-- What may stand behind the letters of options. -/
def isOptionEnd (c : Char) : Bool :=
  c == '-' || c == ':' || c == ')'

/-- There are three of them. -/
theorem eq_of_isOptionEnd (h : isOptionEnd c = true) : c = '-' ∨ c = ':' ∨ c = ')' := by
  simpa [isOptionEnd, or_assoc] using h

/-- How an option begins. -/
theorem exists_letter (option : MatchOption) : ∃ d rest, option.spelling.toList = d :: rest ∧
    (d ≠ '<' ∧ d ≠ '^') ∧ (d = 'x' → option = .extended ∨ option = .extraExtended) := by
  cases option <;> exact ⟨_, _, rfl, by decide, by decide⟩

/-- What begins with letters of options, or with what stands behind them, does not begin like a name
or with a caret. -/
theorem head_letters_ne {options : List MatchOption} (stop : isOptionEnd c = true) {d : Char}
    (head : (letters options ++ c :: more).head? = some d) : d ≠ '<' ∧ d ≠ '^' := by
  cases options with
  | nil =>
    have same : c = d := Option.some.inj head
    subst same
    rcases eq_of_isOptionEnd stop with rfl | rfl | rfl <;> decide
  | cons option options =>
    obtain ⟨first, rest, split, other, _⟩ := exists_letter option
    rw [letters_cons, split] at head
    have same : first = d := Option.some.inj head
    exact same ▸ other

/-- Options that are apart do not run into each other. -/
theorem head_letters_ne_x {options : List MatchOption} (stop : isOptionEnd c = true)
    (apart : MatchOption.areApart (.extended :: options) = true) {d : Char}
    (head : (letters options ++ c :: more).head? = some d) : d ≠ 'x' := by
  cases options with
  | nil =>
    have same : c = d := Option.some.inj head
    subst same
    rcases eq_of_isOptionEnd stop with rfl | rfl | rfl <;> decide
  | cons option options =>
    obtain ⟨first, rest, split, _, known⟩ := exists_letter option
    rw [letters_cons, split] at head
    have same : first = d := Option.some.inj head
    subst same
    intro letter
    rcases known letter with rfl | rfl <;> cases apart

/-- An option is read back by its letters; a single `x` must not be followed by another one. -/
theorem readOption?_plain {option : MatchOption}
    (apart : option = .extended → ∀ d, more.head? = some d → d ≠ 'x') :
    ∃ o', readOption? (plain o (option.spelling.toList ++ more)) =
      .ok (some (option, plain o' more)) := by
  cases option with
  | extended =>
    cases more with
    | nil => exact ⟨_, rfl⟩
    | cons d rest =>
      have single : d ≠ 'x' := apart rfl d rfl
      refine ⟨o + 'x'.utf8Size, ?_⟩
      show readOption? (plain o ('x' :: d :: rest)) = _
      simp [readOption?, single]
      rfl
  | _ => exact ⟨_, rfl⟩

/-- No option begins with what ends them. -/
theorem readOption?_plain_end (stop : isOptionEnd c = true) :
    readOption? (plain o (c :: more)) = .ok none := by
  rcases eq_of_isOptionEnd stop with rfl | rfl | rfl <;> rfl

/-- The letters of some options are read back, up to what ends them. -/
theorem readOptions_plain (removing : Bool) {options : List MatchOption}
    (apart : MatchOption.areApart options = true)
    (kept : removing = true → options.all (!·.isSegmentation) = true)
    (stop : isOptionEnd c = true) {fuel : Nat}
    (enough : (letters options ++ c :: more).length ≤ fuel) :
    ∃ o', readOptions removing fuel (plain o (letters options ++ c :: more)) =
      .ok (options, plain o' (c :: more)) := by
  induction options generalizing o fuel with
  | nil =>
    cases fuel with
    | zero => exact ⟨o, rfl⟩
    | succ fuel =>
      refine ⟨o, ?_⟩
      show readOptions removing (fuel + 1) (plain o (c :: more)) = _
      rw [readOptions, readOption?_plain_end stop]
      rfl
  | cons option options ih =>
    -- an `x` is not followed by another one, so it is read as it is
    have single : option = .extended → ∀ d, (letters options ++ c :: more).head? = some d →
        d ≠ 'x' := by
      rintro rfl d head
      exact head_letters_ne_x stop apart head
    obtain ⟨o₁, first⟩ := readOption?_plain (o := o) single
    rw [letters_cons, List.append_assoc] at enough ⊢
    obtain ⟨d, rest, split, _⟩ := exists_letter option
    obtain ⟨fuel, rfl⟩ : ∃ k, fuel = k + 1 := by
      rw [split] at enough
      simp only [List.cons_append, List.length_cons] at enough
      exact ⟨fuel - 1, by omega⟩
    have room : (letters options ++ c :: more).length ≤ fuel := by
      rw [split] at enough
      simp only [List.cons_append, List.length_cons, List.length_append] at enough ⊢
      omega
    have later : MatchOption.areApart options = true := by
      cases options with
      | nil => rfl
      | cons b options => exact (Bool.and_eq_true_iff.1 apart).2
    have kept' : removing = true → options.all (!·.isSegmentation) = true := by
      intro remove
      have all := kept remove
      rw [List.all_cons, Bool.and_eq_true] at all
      exact all.2
    -- choices of segments are not removed
    have allowed : (removing && option.isSegmentation) = false := by
      cases removing with
      | false => rfl
      | true =>
        have all := kept rfl
        rw [List.all_cons, Bool.and_eq_true, Bool.not_eq_true'] at all
        exact all.1
    obtain ⟨o₂, others⟩ := ih (o := o₁) later kept' room
    refine ⟨o₂, ?_⟩
    rw [readOptions, first]
    simp [bind, Except.bind, allowed, others]
    rfl

/-- Without a hyphen, nothing is removed. -/
theorem readRemoved_plain_nil {caret : Bool} (other : c ≠ '-') :
    readRemoved caret (plain o (c :: more)) = .ok ([], plain o (c :: more)) := by
  have none : (plain o (c :: more)).accept? '-' = none := by
    apply accept?_plain_of_ne
    intro d head
    cases head
    exact other
  rw [readRemoved, none]
  rfl

/-- Behind a hyphen, the options to remove are read back. -/
theorem readRemoved_plain {options : List MatchOption}
    (apart : MatchOption.areApart options = true)
    (kept : options.all (!·.isSegmentation) = true) (stop : isOptionEnd c = true) :
    ∃ o', readRemoved false (plain o ('-' :: (letters options ++ c :: more))) =
      .ok (options, plain o' (c :: more)) := by
  have enough : (letters options ++ c :: more).length ≤
      (plain (o + '-'.utf8Size) (letters options ++ c :: more)).rest.length :=
    Nat.le_of_eq (List.length_map _).symm
  obtain ⟨o', read⟩ := readOptions_plain true (o := o + '-'.utf8Size) apart (fun _ => kept)
    stop enough
  refine ⟨o', ?_⟩
  rw [readRemoved, accept?_plain_cons]
  exact read

/-! ## Changes of options -/

/-- A change is spelled with a caret, letters, a hyphen and letters, as far as there are any. -/
theorem letters_spelling (change : OptionSequence) : change.spelling.toList =
    (if change.caret then ['^'] else []) ++ (letters change.adding ++
      (if change.removing.isEmpty then [] else '-' :: letters change.removing)) := by
  rw [change.toList_spelling, List.append_assoc]
  rfl

/-- What stands behind a change of options. -/
def changeEnd (implicit : Bool) : Char :=
  if implicit then ')' else ':'

/-- What a change of options opens. -/
def ofChange (change : OptionSequence) (implicit : Bool) : Opening :=
  if implicit then .scope change else .group (.options change false)

/-- Either end of a change ends its options. -/
theorem isOptionEnd_changeEnd (implicit : Bool) : isOptionEnd (changeEnd implicit) = true := by
  cases implicit <;> rfl

/-- The options that are removed are read back, up to the end of the change. -/
theorem readRemoved_plain_change {change : OptionSequence} (readable : change.isReadable = true)
    (implicit : Bool) :
    ∃ o', readRemoved change.caret (plain o ((if change.removing.isEmpty then []
        else '-' :: letters change.removing) ++ changeEnd implicit :: more)) =
      .ok (change.removing, plain o' (changeEnd implicit :: more)) := by
  have last : changeEnd implicit ≠ '-' := by cases implicit <;> decide
  simp only [OptionSequence.isReadable, Bool.and_eq_true] at readable
  obtain ⟨⟨⟨_, apart⟩, kept⟩, caret⟩ := readable
  cases removing : change.removing with
  | nil => exact ⟨o, readRemoved_plain_nil last⟩
  | cons option options =>
    rw [removing] at apart kept caret
    -- with a caret there would be nothing to remove
    have noCaret : change.caret = false := by
      cases known : change.caret with
      | false => rfl
      | true =>
        rw [known] at caret
        cases caret
    rw [noCaret]
    exact readRemoved_plain apart kept (isOptionEnd_changeEnd implicit)

/-- What stands in a change behind the options that are added begins with an end of options. -/
theorem exists_optionEnd (change : OptionSequence) (implicit : Bool) (more : Text) :
    ∃ d rest, (if change.removing.isEmpty then [] else '-' :: letters change.removing) ++
      changeEnd implicit :: more = d :: rest ∧ isOptionEnd d = true := by
  cases change.removing with
  | nil => exact ⟨_, _, rfl, isOptionEnd_changeEnd implicit⟩
  | cons option options => exact ⟨_, _, rfl, rfl⟩

/-- A change of options is read back. -/
theorem readChange_plain {change : OptionSequence} (readable : change.isReadable = true)
    (implicit : Bool) (start o : Nat) (more : Text) :
    ∃ o', readChange start (plain o (change.spelling.toList ++ changeEnd implicit :: more)) =
      .ok (ofChange change implicit, plain o' more) := by
  have parts := readable
  simp only [OptionSequence.isReadable, Bool.and_eq_true] at parts
  obtain ⟨⟨⟨apart, _⟩, _⟩, filled⟩ := parts
  rw [letters_spelling, List.append_assoc, List.append_assoc]
  obtain ⟨d, rest, split, stop⟩ := exists_optionEnd change implicit more
  -- the letters are read up to the hyphen or the end, wherever they stand
  have added (o₁ : Nat) : ∃ o₂, readOptions false
      (plain o₁ (letters change.adding ++ d :: rest)).rest.length
      (plain o₁ (letters change.adding ++ d :: rest)) =
        .ok (change.adding, plain o₂ (d :: rest)) := by
    apply readOptions_plain false apart nofun stop
    exact Nat.le_of_eq (List.length_map _).symm
  have removed (o₂ : Nat) : ∃ o₃, readRemoved change.caret (plain o₂ (d :: rest)) =
      .ok (change.removing, plain o₃ (changeEnd implicit :: more)) := by
    rw [← split]
    exact readRemoved_plain_change readable implicit
  rw [split]
  obtain ⟨caret, adding, removing⟩ := change
  cases caret with
  | true =>
    obtain ⟨o₂, added⟩ := added (o + '^'.utf8Size)
    obtain ⟨o₃, removed⟩ := removed o₂
    refine ⟨o₃ + (changeEnd implicit).utf8Size, ?_⟩
    show readChange start (plain o ('^' :: (letters adding ++ d :: rest))) = _
    rw [readChange, accept?_plain_cons]
    simp only [added, removed, bind, Except.bind]
    cases implicit <;> simp [changeEnd, ofChange] <;> rfl
  | false =>
    -- letters do not begin with a caret
    have noCaret : (plain o (letters adding ++ d :: rest)).accept? '^' = none := by
      apply accept?_plain_of_ne
      intro d head
      exact (head_letters_ne stop head).2
    have change : (adding.isEmpty && removing.isEmpty) = false := by
      rwa [if_neg Bool.false_ne_true, Bool.not_eq_true'] at filled
    obtain ⟨o₂, added⟩ := added o
    obtain ⟨o₃, removed⟩ := removed o₂
    refine ⟨o₃ + (changeEnd implicit).utf8Size, ?_⟩
    show readChange start (plain o (letters adding ++ d :: rest)) = _
    rw [readChange, noCaret]
    simp only [added, removed, bind, Except.bind]
    cases implicit <;> simp [changeEnd, ofChange, change] <;> rfl

/-! ## Specifiers -/

/-- What begins with an option, a hyphen or a caret is a change of options. -/
theorem readSpecifier_plain_change {change : OptionSequence} (readable : change.isReadable = true)
    (implicit : Bool) :
    readSpecifier start (plain o (change.spelling.toList ++ changeEnd implicit :: more)) =
      readChange start (plain o (change.spelling.toList ++ changeEnd implicit :: more)) := by
  rw [letters_spelling, List.append_assoc, List.append_assoc]
  obtain ⟨caret, adding, removing⟩ := change
  obtain ⟨d, rest, split, stop⟩ := exists_optionEnd ⟨caret, adding, removing⟩ implicit more
  cases caret with
  | true => rfl
  | false =>
    cases adding with
    | nil =>
      cases removing with
      | nil =>
        simp only [OptionSequence.isReadable] at readable
        exact absurd readable (by decide)
      | cons option options => rfl
    | cons option options =>
      rw [split]
      cases option with
      | asciiPosix =>
        -- this letter also begins a name, if an angle follows
        show readSpecifier start (plain o ('P' :: (letters options ++ d :: rest))) =
          readChange start (plain o ('P' :: (letters options ++ d :: rest)))
        have other (e : Char) (head : (letters options ++ d :: rest).head? = some e) :
            e ≠ '<' ∧ e ≠ '^' := head_letters_ne stop head
        cases behind : letters options ++ d :: rest with
        | nil => rfl
        | cons e rest' =>
          rw [behind] at other
          have angle : e ≠ '<' := (other e rfl).1
          simp [readSpecifier, angle, kind?]
      | _ => rfl

/-- A name and the angle behind it are read back. -/
theorem readSpecifier_plain_named {name : Text} (some : name ≠ [])
    (letters : ∀ c ∈ name, isAsciiName c = true) :
    ∃ o', readSpecifier start (plain o ('<' :: (name ++ '>' :: more))) =
      .ok (.group (.named name), plain o' more) := by
  have stop : ∀ c, ('>' :: more).head? = .some c → isNameUnit [c] = false := by
    intro c head
    cases head
    decide +kernel
  have read := readName_plain (o + '<'.utf8Size) start some letters stop
  obtain ⟨c, rest, rfl⟩ := List.exists_cons_of_ne_nil some
  have first := letters c List.mem_cons_self
  -- a name does not begin with any of the signs that may stand behind the angle
  have equals : c ≠ '=' := by
    rintro rfl
    cases first
  have exclamation : c ≠ '!' := by
    rintro rfl
    cases first
  have star : c ≠ '*' := by
    rintro rfl
    cases first
  have named : readSpecifier start (plain o ('<' :: c :: (rest ++ '>' :: more))) =
      readNamed '>' start (plain (o + '<'.utf8Size) (c :: (rest ++ '>' :: more))) := by
    simp [readSpecifier, equals, exclamation, star]
  rw [List.cons_append] at read ⊢
  refine ⟨o + '<'.utf8Size + Text.byteLength (c :: rest) + '>'.utf8Size, ?_⟩
  rw [named, readNamed, read]
  simp only [bind, Except.bind, expect_plain_cons]
  rfl

/-! ## Openings -/

/-- The opening of a group is read back. -/
theorem read_plain (o : Nat) {more : Text} {kind : GroupKind} (explicit : kind.isImplicit = false)
    (readable : kind.isReadable = true)
    (calm : kind = .capture → ∀ d, more.head? = some d → d ≠ '?' ∧ d ≠ '*') :
    ∃ o', read (plain o (kind.opener ++ more)) = .ok (.group kind, plain o' more) := by
  cases kind with
  | capture =>
    cases more with
    | nil => exact ⟨_, rfl⟩
    | cons d rest =>
      -- a question mark or an asterisk would make another kind of it
      have other := calm rfl d rfl
      refine ⟨o + '('.utf8Size, ?_⟩
      show read (plain o ('(' :: d :: rest)) = _
      simp [read, other.1, other.2]
      rfl
  | named name =>
    rw [GroupKind.isReadable, Bool.and_eq_true, List.all_eq_true] at readable
    have some : name ≠ [] := by
      rintro rfl
      cases readable.1
    have opener : (GroupKind.named name).opener ++ more =
        '(' :: '?' :: '<' :: (name ++ '>' :: more) := by
      simp [GroupKind.opener]
    rw [opener]
    exact readSpecifier_plain_named some readable.2
  | options change implicit =>
    obtain rfl : implicit = false := explicit
    have opener : (GroupKind.options change false).opener ++ more =
        '(' :: '?' :: (change.spelling.toList ++ changeEnd false :: more) := by
      simp [GroupKind.opener, changeEnd]
    rw [opener]
    obtain ⟨o', read⟩ := readChange_plain readable false o
      (o + '('.utf8Size + '?'.utf8Size) more
    rw [← readSpecifier_plain_change readable false] at read
    exact ⟨o', read⟩
  | _ => exact ⟨_, rfl⟩

/-- A change of options for the rest of a sequence is read back. -/
theorem read_plain_scope (o : Nat) (more : Text) {change : OptionSequence}
    (readable : change.isReadable = true) :
    ∃ o', read (plain o ((GroupKind.options change true).opener ++ more)) =
      .ok (.scope change, plain o' more) := by
  have opener : (GroupKind.options change true).opener ++ more =
      '(' :: '?' :: (change.spelling.toList ++ changeEnd true :: more) := by
    simp [GroupKind.opener, changeEnd]
  rw [opener]
  obtain ⟨o', read⟩ := readChange_plain readable true o
    (o + '('.utf8Size + '?'.utf8Size) more
  rw [← readSpecifier_plain_change readable true] at read
  exact ⟨o', read⟩

/-- A comment is read back. -/
theorem read_plain_comment (o : Nat) (more : Text) {text : Text} (closed : ')' ∉ text) :
    ∃ o', read (plain o ('(' :: '?' :: '#' :: (text ++ ')' :: more))) =
      .ok (.comment text, plain o' more) := by
  have pass : ∀ c ∈ text, ([c] != [')']) = true := by
    intro c mem
    rw [bne_iff_ne]
    intro same
    obtain rfl := List.singleton_inj.1 same
    exact closed mem
  have stop : ∀ c, (')' :: more).head? = some c → ([c] != [')']) = false := by
    intro c head
    cases head
    rfl
  -- the text reaches up to the first closing parenthesis
  have span := spanWhile_plain (o := o + '('.utf8Size + '?'.utf8Size + '#'.utf8Size) (· != [')'])
    pass stop
  have opened : read (plain o ('(' :: '?' :: '#' :: (text ++ ')' :: more))) =
      readSpecifier o (plain (o + '('.utf8Size + '?'.utf8Size)
        ('#' :: (text ++ ')' :: more))) := rfl
  refine ⟨o + '('.utf8Size + '?'.utf8Size + '#'.utf8Size + Text.byteLength text + ')'.utf8Size, ?_⟩
  rw [opened, readSpecifier]
  simp only [rest_plain_cons, skip_plain_one, span, accept?_plain_cons]
  rfl

end Opening

end GraphemeRegex
