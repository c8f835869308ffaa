import GraphemeRegex.Proofs.Reading.Outcomes

/-! # Brackets — reading a bracketed class to its end

The classes that are open at a time begin at brackets that have been read, and what they hold so far
is proper. One step keeps this and takes at least one unit, so the source ends before the steps do.

* `OpenBracket.Fits`: an open class fits the place where reading stands.
* `OpenBracket.outcome_step`, `OpenBracket.outcome_run`: one step, and all of them.
* `OpenBracket.run_eq_of_length_le`: more steps than there are units change nothing.
-/

namespace GraphemeRegex

namespace OpenBracket

open Text

variable {source : Text} {i j : Input} {limit depth : Nat} {unit : Text} {rest : List Text}

/-! ## Members -/

/-- A set with a name is read to its closing bracket; its name is known, or it is what the error is
about. -/
theorem outcome_readPosix (h : i.Of source) (units : i.rest = unit :: rest) :
    source.Yields i.offset (ClassMember.Proper source) (readPosix i) := by
  have past : (i.skip 2).Past source i.offset := h.past_skip units 1
  unfold readPosix
  have named {k : Input} (behind : k.Past source i.offset) :=
    behind.spanWhile fun unit => unit != [':'] && unit != [']']
  dsimp only
  -- with a caret or without, the name is what comes next
  cases caret : (i.skip 2).accept? '^'
  case' none => have named := named past
  case' some k => have named := named (past.accept? caret)
  all_goals
    dsimp only
    split
    · exact named.of.errorHere _
    case h_2 k closed =>
      split
      case isTrue known =>
        obtain ⟨name, mem, same⟩ := List.any_eq_true.1 known
        exact ⟨⟨name, mem, (beq_iff_eq.1 same).symm⟩, named.acceptAll? closed⟩
      case isFalse => exact (named.acceptAll? closed).errorFrom _

/-- A member by itself is an escape or a cluster of the source. -/
theorem outcome_readAtom (h : i.Of source) :
    source.Yields i.offset (Escape.Proper source) (readAtom i) := by
  unfold readAtom
  split
  case h_1 => exact h.errorHere _
  case h_2 units => exact Escape.outcome_read h units
  case h_3 => exact h.errorHere _
  case h_4 unit rest _ _ units =>
    have mem : unit ∈ i.rest := units ▸ List.mem_cons_self
    exact ⟨⟨h.mem_clusters mem, h.ne_nil mem⟩, h.past_skip units 0⟩

/-- A member is a quote, a single one, or a range of two with a character at each end. -/
theorem outcome_readMember (h : i.Of source) :
    source.Yields i.offset (ClassMember.Proper source) (readMember i) := by
  unfold readMember
  refine (outcome_readAtom h).bind fun found j proper here => ?_
  cases found with
  | quote text => exact ⟨trivial, here⟩
  | atom low =>
    dsimp only
    split
    · exact ⟨proper, here⟩
    · -- behind the hyphen stands the upper end
      have later := (outcome_readAtom (here.skip 1).of).trans (here.skip 1)
      refine later.bind fun found k proper' there => ?_
      cases found with
      | quote text => exact there.errorFrom _
      | atom high =>
        dsimp only
        split
        · exact there.errorFrom _
        case isFalse single =>
          simp only [Bool.or_eq_true, not_or, Bool.not_eq_true, Option.isNone_eq_false_iff]
            at single
          exact ⟨⟨⟨proper, single.1⟩, proper', single.2⟩, there⟩

/-! ## Opening and closing -/

/-- The bracket of the class has been read, and its members so far are proper. -/
structure Fits (source : Text) (i : Input) (b : OpenBracket) : Prop where
  past : i.Past source b.start
  members : ∀ m ∈ b.members, m.Proper source

/-- A proper member joins a class that fits. -/
theorem Fits.push {b : OpenBracket} {m : ClassMember} (h : b.Fits source i)
    (proper : m.Proper source) : (b.push m).Fits source i :=
  ⟨h.past, List.forall_mem_cons.2 ⟨proper, h.members⟩⟩

/-- An open class still fits further on. -/
theorem Fits.later {b : OpenBracket} (h : b.Fits source i) (moved : j.Past source i.offset) :
    b.Fits source j :=
  ⟨h.past.trans moved, h.members⟩

/-- A class is closed only if it has members. -/
theorem Fits.closed {b : OpenBracket} (h : b.Fits source i) (filled : b.members.isEmpty ≠ true) :
    b.members.reverse ≠ [] ∧ ClassMember.ProperAll source b.members.reverse := by
  refine ⟨fun none => filled (List.isEmpty_iff.2 (List.reverse_eq_nil_iff.1 none)), ?_⟩
  exact ClassMember.properAll_iff.2 fun m mem => h.members m (List.mem_reverse.1 mem)

/-- A class is opened behind its bracket, empty. -/
theorem outcome_openAt (h : i.Of source) (units : i.rest = unit :: rest) :
    source.Reads (fun found => found.1.Fits source found.2 ∧ found.2.Past source i.offset)
      (openAt limit depth i) := by
  have past : (i.skip 1).Past source i.offset := h.past_skip units 0
  unfold openAt
  dsimp only
  split
  · exact past.errorFrom _
  · split
    case h_1 j found => exact ⟨⟨past.accept? found, nofun⟩, past.accept? found⟩
    case h_2 => exact ⟨⟨past, nofun⟩, past⟩

/-- What a step leads to: open classes that fit, or a class of the right shape. -/
def Progress.Fits (source : Text) (i : Input) : Progress → Prop
  | reading current outer => ∀ b ∈ current :: outer, b.Fits source i
  | closed inverted members => (Pattern.custom inverted members).Shaped source

/-- A step adds a member, opens a class or closes one, and takes a unit. -/
theorem outcome_step {current : OpenBracket} {outer : List OpenBracket} (h : i.Of source)
    (fits : ∀ b ∈ current :: outer, b.Fits source i) :
    source.Reads (fun found => found.1.Fits source found.2 ∧ found.2.Past source i.offset)
      (step limit depth current outer i) := by
  obtain ⟨here, around⟩ := List.forall_mem_cons.1 fits
  -- a member is added to the innermost class
  have added {m : ClassMember} {j : Input} (proper : m.Proper source)
      (moved : j.Past source i.offset) : ∀ b ∈ current.push m :: outer, b.Fits source j :=
    List.forall_mem_cons.2 ⟨(here.push proper).later moved, fun b mem => (around b mem).later moved⟩
  unfold OpenBracket.step
  split
  case h_1 => exact here.past.errorFrom _
  case h_2 units =>
    have moved : (i.skip 1).Past source i.offset := h.past_skip units 0
    cases outer with
    | nil =>
      dsimp only
      split
      · exact h.errorHere _
      case isFalse filled => exact ⟨here.closed filled, moved⟩
    | cons parent outer =>
      obtain ⟨before, around⟩ := List.forall_mem_cons.1 around
      dsimp only
      split
      · exact h.errorHere _
      case isFalse filled =>
        have closed : (ClassMember.nested current.inverted current.members.reverse).Proper source :=
          here.closed filled
        refine ⟨List.forall_mem_cons.2 ⟨(before.push closed).later moved, ?_⟩, moved⟩
        exact fun b mem => (around b mem).later moved
  case h_3 units =>
    exact (outcome_readPosix h units).bind fun m j proper moved => ⟨added proper moved, moved⟩
  case h_4 units =>
    refine (outcome_openAt h units).bind fun found fine => ?_
    refine ⟨List.forall_mem_cons.2 ⟨fine.1, fun b mem => (fits b mem).later fine.2⟩, fine.2⟩
  case h_5 =>
    exact (outcome_readMember h).bind fun m j proper moved => ⟨added proper moved, moved⟩

/-- By induction on the steps, until the outermost class is closed or the source ends. -/
theorem outcome_run {fuel : Nat} {current : OpenBracket} {outer : List OpenBracket}
    (h : i.Of source) (fits : ∀ b ∈ current :: outer, b.Fits source i) :
    source.Yields i.offset (Pattern.Operand source) (run limit depth fuel current outer i) := by
  induction fuel generalizing current outer i with
  | zero => exact (fits current List.mem_cons_self).past.errorFrom _
  | succ fuel ih =>
    unfold OpenBracket.run
    refine (outcome_step h fits).bind fun found fine => ?_
    obtain ⟨progress, j⟩ := found
    cases progress with
    | reading current outer => exact (ih fine.2.of fine.1).trans fine.2
    | closed inverted members => exact ⟨⟨fine.1, rfl, rfl⟩, fine.2⟩

/-- A bracketed class can be repeated, and it has the shape of trees that are read. -/
theorem outcome_read (h : i.Of source) (units : i.rest = unit :: rest) :
    source.Yields i.offset (Pattern.Operand source) (OpenBracket.read limit depth i) := by
  refine (outcome_openAt h units).bind fun found fine => ?_
  exact (outcome_run fine.2.of (List.forall_mem_singleton.2 fine.1)).trans fine.2

/-! ## Enough steps -/

/-- If the source ends first, the class that is open lacks its bracket. -/
theorem run_of_nil {fuel : Nat} {current : OpenBracket} {outer : List OpenBracket}
    (done : i.rest = []) : run limit depth fuel current outer i =
      .error (i.errorFrom (.expected "]") current.start) := by
  cases fuel with
  | zero => rfl
  | succ fuel =>
    unfold OpenBracket.run OpenBracket.step
    rw [done]
    rfl

/-- As much fuel as there are units is never used up, so that more changes nothing. -/
theorem run_eq_of_length_le {fuel fuel' : Nat} {current : OpenBracket} {outer : List OpenBracket}
    (h : i.Of source) (fits : ∀ b ∈ current :: outer, b.Fits source i)
    (enough : i.rest.length ≤ fuel) (enough' : i.rest.length ≤ fuel') :
    run limit depth fuel current outer i = run limit depth fuel' current outer i := by
  -- what is left is measured in units, and each step takes one
  refine eq_of_enough (s := (current, outer, i)) (w := fun s => s.2.2.rest.length)
    (f := fun fuel s => run limit depth fuel s.1 s.2.1 s.2.2)
    (P := fun s => s.2.2.Of source ∧ ∀ b ∈ s.1 :: s.2.1, b.Fits source s.2.2)
    (fun s none n m => ?_) (fun s holds n m ih => ?_) ⟨h, fits⟩ enough enough'
  · have done : s.2.2.rest = [] := List.length_eq_zero_iff.1 none
    rw [run_of_nil done, run_of_nil done]
  · obtain ⟨current, outer, i⟩ := s
    obtain ⟨h, fits⟩ := holds
    dsimp only
    unfold OpenBracket.run
    cases stepped : step limit depth current outer i with
    | error e => rfl
    | ok found =>
      obtain ⟨progress, j⟩ := found
      have one := (outcome_step h fits).of_eq_ok stepped
      cases progress with
      | closed inverted members => rfl
      | reading current outer =>
        exact ih (current, outer, j) ⟨one.2.of, one.1⟩ (one.2.length_lt h)

end OpenBracket

end GraphemeRegex
