import GraphemeRegex.Proofs.Reading.Deepening

/-! # Cut-off — what a lower limit takes away

The limit of nesting is looked at only where a group or a bracketed class opens, and nothing else
depends on it. A run with a lower limit therefore goes along with the run with a higher one until
something opens that lies too deep; it stops there, and what the other run has made is too deep from
then on.

* `CutsOff`: what reading comes to at a limit, beside what it comes to at a higher one.
* `OpenBracket.cutsOff_step`, `OpenBracket.cutsOff_read`: bracketed classes at both limits.
* `Reading.cutsOff_step`, `Reading.cutsOff_run`: one step and all of them at both limits.
* `Pattern.parse_at_lower_limit`: all sources.
-/

namespace GraphemeRegex

variable {limit limit' : Nat}

/-! ## Results at two limits -/

/-- The error is that groups and classes lie deeper in each other than the limit allows. -/
structure ReadError.TooDeep (limit : Nat) (e : ReadError) : Prop where
  fault : e.fault = .nestedTooDeep limit
  message : e.message = "pattern nested deeper than " ++ toString limit ++ " levels"

section Results

variable {α β : Type} {P : α → Prop} {Q : β → Prop} {x y : Except ReadError α}

/-- Reading is refused for its depth. -/
def Refused (limit : Nat) (x : Except ReadError α) : Prop :=
  ∃ e, x = .error e ∧ e.TooDeep limit

/-- What is refused stays so, whatever would have come next. -/
theorem Refused.bind (h : Refused limit x) (f : α → Except ReadError β) :
    Refused limit (x >>= f) := by
  obtain ⟨e, rfl, deep⟩ := h
  exact ⟨e, rfl, deep⟩

/-- The first result is what the limit leaves of the second, which was come to with a higher limit:
what has the property that keeps the limit stays, what lacks it is refused, and an error stays or
is preceded by a refusal. -/
def CutsOff (limit : Nat) (P : α → Prop) (x : Except ReadError α) : Except ReadError α → Prop
  | .ok a => (P a → x = .ok a) ∧ (¬ P a → Refused limit x)
  | .error e => x = .error e ∨ Refused limit x

/-- What does not depend on the limit stays, if it keeps the limit. -/
theorem CutsOff.of_keeps (keeps : ∀ a, x = .ok a → P a) : CutsOff limit P x x := by
  cases x with
  | ok a => exact ⟨fun _ => rfl, fun deep => absurd (keeps a rfl) deep⟩
  | error e => exact .inl rfl

/-- What is refused is so whatever the higher limit leads to, as long as that does not keep the
limit. -/
theorem CutsOff.of_refused (refused : Refused limit x) (deep : ∀ a, y = .ok a → ¬ P a) :
    CutsOff limit P x y := by
  cases y with
  | ok a => exact ⟨fun keeps => absurd keeps (deep a rfl), fun _ => refused⟩
  | error e => exact .inr refused

/-- What is read at the lower limit is read at the higher one. -/
theorem CutsOff.eq_ok {a : α} (h : CutsOff limit P x y) (found : x = .ok a) : y = .ok a := by
  rw [found] at h
  cases y with
  | ok b =>
    by_cases keeps : P b
    · exact (h.1 keeps).symm
    · obtain ⟨e, refused, _⟩ := h.2 keeps
      cases refused
  | error e =>
    rcases h with same | ⟨e', refused, _⟩
    · cases same
    · cases refused

/-- An error at the lower limit that is not about the depth is the error at the higher one. -/
theorem CutsOff.eq_error {e : ReadError} (h : CutsOff limit P x y) (failed : x = .error e)
    (other : ¬ e.TooDeep limit) : y = .error e := by
  rw [failed] at h
  cases y with
  | ok b =>
    by_cases keeps : P b
    · cases h.1 keeps
    · obtain ⟨_, ⟨⟩, deep⟩ := h.2 keeps
      exact absurd deep other
  | error e' =>
    rcases h with same | ⟨_, ⟨⟩, deep⟩
    · exact same.symm
    · exact absurd deep other

/-- Cut-offs compose, if nothing that comes later takes back what is too deep. -/
theorem CutsOff.bind {f g : α → Except ReadError β} (h : CutsOff limit P x y)
    (back : ∀ a b, y = .ok a → g a = .ok b → Q b → P a)
    (later : ∀ a, y = .ok a → P a → CutsOff limit Q (f a) (g a)) :
    CutsOff limit Q (x >>= f) (y >>= g) := by
  cases y with
  | error e =>
    rcases h with same | refused
    · rw [same]
      exact .inl rfl
    · exact .inr (refused.bind f)
  | ok a =>
    by_cases keeps : P a
    · rw [h.1 keeps]
      exact later a rfl keeps
    · -- what is too deep in between is too deep in the end
      exact .of_refused ((h.2 keeps).bind f) fun b found kept => keeps (back a b rfl found kept)

/-- A test that does not depend on the limit decides alike at both. -/
theorem CutsOff.ite {c : Prop} [Decidable c] {x' y' : Except ReadError α}
    (pos : c → CutsOff limit P x y) (neg : ¬ c → CutsOff limit P x' y') :
    CutsOff limit P (if c then x else x') (if c then y else y') := by
  by_cases holds : c
  · rw [if_pos holds, if_pos holds]
    exact pos holds
  · rw [if_neg holds, if_neg holds]
    exact neg holds

end Results

/-! ## Bracketed classes -/

namespace OpenBracket

variable {around depth : Nat} {current : OpenBracket} {outer : List OpenBracket} {i : Input}

/-- Opening a class looks at the limit, and the lower one may refuse what the higher one lets in. -/
theorem cutsOff_openAt (le : limit ≤ limit') :
    CutsOff limit (fun _ => depth < limit) (openAt limit depth i) (openAt limit' depth i) := by
  by_cases full : limit ≤ depth
  · refine .of_refused ⟨(i.skip 1).errorFrom (.nestedTooDeep limit) i.offset, ?_, rfl, rfl⟩
      fun _ _ room => absurd room (Nat.not_lt.2 full)
    rw [openAt, if_pos full]
    rfl
  · have free : ¬ limit' ≤ depth := fun full' => full (Nat.le_trans le full')
    have same : openAt limit depth i = openAt limit' depth i := by
      rw [openAt, openAt, if_neg full, if_neg free]
    rw [same]
    exact .of_keeps fun _ _ => Nat.lt_of_not_le full

/-- One step at both limits: it closes a class, adds a member or opens a class, and only the last
depends on the limit. -/
theorem cutsOff_step (le : limit ≤ limit') (h : Keeps limit around (current :: outer)) :
    CutsOff limit (fun found => found.1.Keeps limit around)
      (step limit around current outer i) (step limit' around current outer i) := by
  have kept (found : Progress × Input) (stepped : step limit around current outer i = .ok found) :
      found.1.Keeps limit around := h.step stepped
  unfold OpenBracket.step at kept ⊢
  split at kept
  case h_4 =>
    -- only here the limit is looked at
    refine (cutsOff_openAt le).bind (fun _ _ _ found deeper => ?_) fun found opened room => ?_
    · cases found
      have above := deeper.1
      rw [List.length_cons] at above
      omega
    · obtain ⟨none, _⟩ := of_openAt opened
      refine ⟨fun _ => rfl, fun deep => absurd ?_ deep⟩
      refine ⟨?_, h⟩
      rw [none, ClassMember.depthAll, List.length_cons]
      omega
  all_goals exact .of_keeps kept

/-- All steps at both limits, as long as what is open is not too deep. -/
theorem cutsOff_run {fuel : Nat} (le : limit ≤ limit')
    (h : Keeps limit around (current :: outer)) :
    CutsOff limit (fun found => found.1.depth + around ≤ limit)
      (run limit around fuel current outer i) (run limit' around fuel current outer i) := by
  induction fuel generalizing current outer i with
  | zero => exact .inl rfl
  | succ fuel ih =>
    unfold OpenBracket.run
    refine (cutsOff_step le h).bind (fun found class? _ ran kept => ?_) fun found _ kept => ?_
    · -- a class that is not too deep was not so at any step
      obtain ⟨progress, j⟩ := found
      cases progress with
      | reading current outer => exact Keeps.of_run ran kept
      | closed inverted members =>
        cases ran
        exact kept
    · obtain ⟨progress, j⟩ := found
      cases progress with
      | reading current outer => exact ih kept
      | closed inverted members => exact ⟨fun _ => rfl, fun deep => absurd kept deep⟩

/-- A class is read alike unless it is too deep together with the groups around it. -/
theorem cutsOff_read (le : limit ≤ limit') :
    CutsOff limit (fun found => found.1.depth + around ≤ limit)
      (read limit around i) (read limit' around i) := by
  refine (cutsOff_openAt le).bind (fun found p _ ran kept => ?_) fun found opened room => ?_
  · have before : Keeps limit around [found.1] := Keeps.of_run ran kept
    have room := before.1
    rw [List.length_nil] at room
    omega
  · obtain ⟨none, _⟩ := of_openAt opened
    refine cutsOff_run le ⟨?_, trivial⟩
    rw [none, ClassMember.depthAll, List.length_nil]
    omega

end OpenBracket

/-! ## Patterns -/

namespace Reading

variable {r : Reading} {i next : Input} {dialect : Dialect} {unit : Text} {source : Text}

/-- A group that opens is tested against the limit, and not looked at any further. -/
theorem openGroup_of_group {kind : GroupKind} (opening : Opening.read i = .ok (.group kind, next)) :
    openGroup limit r i =
      if limit ≤ r.groups.length then .error (next.errorFrom (.nestedTooDeep limit) i.offset)
      else .ok (⟨.start, ⟨i.offset, kind, r.current⟩ :: r.groups⟩, next) := by
  unfold openGroup
  rw [opening]
  by_cases full : limit ≤ r.groups.length
  · simp only [if_pos full]
    rfl
  · simp only [if_neg full]
    rfl

/-- Opening a group is the one step of a pattern that looks at the limit itself. -/
theorem cutsOff_openGroup (le : limit ≤ limit') (h : r.Keeps limit) :
    CutsOff limit (fun found => found.1.Keeps limit)
      (openGroup limit r i) (openGroup limit' r i) := by
  have kept (found : Reading × Input) (opened : openGroup limit r i = .ok found) :
      found.1.Keeps limit := h.openGroup opened
  cases read : Opening.read i with
  | error e =>
    unfold openGroup
    rw [read]
    exact .inl rfl
  | ok found =>
    obtain ⟨opening, j⟩ := found
    cases opening with
    | comment text | scope change =>
      unfold openGroup at kept ⊢
      rw [read] at kept ⊢
      exact .of_keeps kept
    | group kind =>
      rw [openGroup_of_group read] at kept ⊢
      rw [openGroup_of_group read]
      by_cases full : limit ≤ r.groups.length
      · -- the group stays open or becomes a part of the tree, and is too deep in both cases
        rw [if_pos full]
        refine .of_refused ⟨_, rfl, rfl, rfl⟩ fun found opened keeps => ?_
        split at opened
        · cases opened
        · cases opened
          exact absurd keeps.groups.1 (Nat.not_lt.2 full)
      · have free : ¬ limit' ≤ r.groups.length := fun full' => full (Nat.le_trans le full')
        rw [if_neg full] at kept ⊢
        rw [if_neg free]
        exact .of_keeps kept

/-- Of the operands, groups and classes depend on the limit. -/
theorem cutsOff_readOperand (le : limit ≤ limit') (h : r.Keeps limit) :
    CutsOff limit (fun found => found.1.Keeps limit)
      (readOperand dialect limit r unit i) (readOperand dialect limit' r unit i) := by
  have kept (found : Reading × Input) (read : readOperand dialect limit r unit i = .ok found) :
      found.1.Keeps limit := h.readOperand read
  unfold readOperand at kept ⊢
  split at kept
  case h_1 => exact cutsOff_openGroup le h
  case h_2 =>
    refine (OpenBracket.cutsOff_read le).bind (fun found _ _ pushed keeps => ?_)
      fun found _ less => ?_
    · -- a class that became a piece of what keeps the limit was not too deep
      cases pushed
      have operand : found.1.depth ≤ limit - r.groups.length :=
        (List.forall_mem_cons.1 keeps.current.pieces).1
      have room := h.length_le
      omega
    · have operand : found.1.depth ≤ limit - r.groups.length := Nat.le_sub_of_add_le less
      have pushed : (r.operand found.1).Keeps limit := h.push operand
      exact ⟨fun _ => rfl, fun deep => absurd pushed deep⟩
  all_goals exact .of_keeps kept

/-- One step at both limits. -/
theorem cutsOff_step (le : limit ≤ limit') (h : r.Keeps limit) :
    CutsOff limit (fun found => found.1.Keeps limit)
      (step dialect limit r unit i) (step dialect limit' r unit i) := by
  unfold step
  refine .ite (fun _ => ?_) fun _ => .ite (fun _ => ?_) fun _ => .ite (fun _ => ?_) fun _ => ?_
  · exact ⟨fun _ => rfl, fun deep => absurd ⟨h.current.nextBranch, h.groups⟩ deep⟩
  · exact .of_keeps fun found closed => h.closeGroup closed
  · exact ⟨fun _ => rfl, fun deep => absurd (h.push (Nat.zero_le _)) deep⟩
  · cases Quantifier.readAmount? i with
    | some found => exact .of_keeps fun found done => h.quantify done
    | none => exact cutsOff_readOperand le h

/-- The end does not depend on the limit. -/
theorem cutsOff_finish (h : r.Keeps limit) :
    CutsOff limit (fun t => t.depth ≤ limit) (r.finish i) (r.finish i) :=
  .of_keeps fun _ finished => h.finish finished

/-- All steps at both limits. -/
theorem cutsOff_run {fuel : Nat} (le : limit ≤ limit') (h : r.Keeps limit)
    (fits : r.Fits source limit' i) :
    CutsOff limit (fun t => t.depth ≤ limit)
      (run dialect limit fuel r i) (run dialect limit' fuel r i) := by
  induction fuel generalizing r i with
  | zero => exact cutsOff_finish h
  | succ fuel ih =>
    cases units : i.rest with
    | nil =>
      rw [run_of_nil units, run_of_nil units]
      exact cutsOff_finish h
    | cons unit rest =>
      unfold run
      rw [units]
      refine (cutsOff_step le h).bind (fun found t stepped ran shallow => ?_)
        fun found stepped keeps => ?_
      · -- a tree that is not too deep was not so at any step
        exact Keeps.of_run ((fits.step units).of_eq_ok stepped).fits ran shallow
      · exact ih keeps ((fits.step units).of_eq_ok stepped).fits

end Reading

/-! ## All sources -/

namespace Pattern

variable {source : Text} {dialect : Dialect}

/-- Both runs begin with nothing read. -/
theorem parse_cutsOff (le : limit ≤ limit') :
    CutsOff limit (fun t => t.depth ≤ limit)
      (parse source dialect limit) (parse source dialect limit') :=
  Reading.cutsOff_run le ⟨.start, trivial⟩ (.start source limit')

/-- A lower limit only cuts off. A tree that is read at the higher limit is read at the lower one if
it is no deeper, and is refused for its depth if it is; an error is the same, unless reading is
refused for its depth. So a tree that is read at the lower limit, and an error that is not about the
depth, are the same at the higher one. -/
theorem parse_at_lower_limit (source : Text) (dialect : Dialect) (le : limit ≤ limit') :
    (∀ t, parse source dialect limit' = .ok t →
      (t.depth ≤ limit → parse source dialect limit = .ok t) ∧
      (limit < t.depth →
        ∃ e, parse source dialect limit = .error e ∧ e.TooDeep limit)) ∧
    (∀ e, parse source dialect limit' = .error e →
      parse source dialect limit = .error e ∨
        ∃ e', parse source dialect limit = .error e' ∧ e'.TooDeep limit) ∧
    (∀ t, parse source dialect limit = .ok t → parse source dialect limit' = .ok t) ∧
    ∀ e, parse source dialect limit = .error e → ¬ e.TooDeep limit →
      parse source dialect limit' = .error e := by
  -- all four parts say what the cut-off leaves
  have cut : CutsOff limit (fun t => t.depth ≤ limit) (parse source dialect limit)
      (parse source dialect limit') := parse_cutsOff le
  refine ⟨fun t higher => ?_, fun e higher => ?_, fun t lower => cut.eq_ok lower,
    fun e lower other => cut.eq_error lower other⟩
  · rw [higher] at cut
    exact ⟨cut.1, fun less => cut.2 (Nat.not_le.2 less)⟩
  · rw [higher] at cut
    exact cut

/-- At the limit one, a class in a group is refused, a class behind a group is read as at the limit
two, and a group that is not closed is the fault that it is there, too. -/
theorem parse_at_limit_one :
    1 ≤ 2 ∧
    (∃ e, parse "a(b[c])*".toList .traditional 1 = .error e ∧ e.TooDeep 1) ∧
    parse "(a)|[b]".toList .traditional 1 = .ok (.alternation
      [.group .capture (.atom (.char ['a'])), .custom false [.atom (.char ['b'])]]) ∧
    parse "(a)(b".toList .traditional 2 = .error ⟨.expected ")", 3, 5⟩ := by
  refine ⟨by decide, ?_, ?_, ?_⟩
  · have higher : parse "a(b[c])*".toList .traditional 2 = .ok (.concatenation
        [.atom (.char ['a']), .repetition .zeroOrMore .eager (.group .capture
          (.concatenation [.atom (.char ['b']), .custom false [.atom (.char ['c'])]]))]) := by
      decide +kernel
    exact ((parse_at_lower_limit _ .traditional (by decide)).1 _ higher).2 (by decide)
  · have higher : parse "(a)|[b]".toList .traditional 2 = .ok (.alternation
        [.group .capture (.atom (.char ['a'])), .custom false [.atom (.char ['b'])]]) := by
      decide +kernel
    exact ((parse_at_lower_limit _ .traditional (by decide)).1 _ higher).1 (by decide)
  · have lower : parse "(a)(b".toList .traditional 1 = .error ⟨.expected ")", 3, 5⟩ := by
      decide +kernel
    exact (parse_at_lower_limit _ .traditional (by decide)).2.2.2 _ lower
      fun deep => nomatch deep.fault

end Pattern

end GraphemeRegex
