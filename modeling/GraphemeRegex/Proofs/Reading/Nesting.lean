import GraphemeRegex.Proofs.Pattern.Releveling
import GraphemeRegex.Reading.Parse

/-! # Nesting — how deep the groups and classes of a tree lie in each other

A limit is put to how many groups and bracketed classes may be open at a time. It is kept by all
that is read, so that no tree that is read is deeper than the limit.

* `Pattern.depth`: how deep the groups and bracketed classes of a tree lie in each other.
* `OpenBracket.Keeps`, `Reading.Keeps`: what is being read keeps the limit.
* `Pattern.depth_le_of_parse`: so does a tree that was read.
-/

namespace GraphemeRegex

/-! ## Depths -/

namespace ClassMember

mutual

/-- How many bracketed classes lie around each other. -/
def depth : ClassMember → Nat
  | nested _ members => depthAll members + 1
  | atom _ | range _ _ | posix _ _ | quote _ => 0

/-- The depth of the deepest member of a list. -/
def depthAll : List ClassMember → Nat
  | [] => 0
  | m :: ms => max (depth m) (depthAll ms)

end

/-- A list of members is as deep as its deepest one. -/
theorem depthAll_le_iff {ms : List ClassMember} {n : Nat} :
    depthAll ms ≤ n ↔ ∀ m ∈ ms, m.depth ≤ n := by
  induction ms with
  | nil => simp [depthAll]
  | cons m ms ih => rw [depthAll, Nat.max_le, ih, List.forall_mem_cons]

/-- Members are gathered backwards, which makes no difference to how deep they are. -/
theorem depthAll_reverse (ms : List ClassMember) : depthAll ms.reverse = depthAll ms := by
  -- the same bounds hold of both
  have same (n : Nat) : depthAll ms.reverse ≤ n ↔ depthAll ms ≤ n := by
    simp only [depthAll_le_iff, List.mem_reverse]
  exact Nat.le_antisymm ((same _).2 (Nat.le_refl _)) ((same _).1 (Nat.le_refl _))

end ClassMember

namespace Pattern

mutual

/-- How many groups with parentheses of their own and bracketed classes lie around each other. -/
def depth : Pattern → Nat
  | alternation branches => depthAll branches
  | concatenation items => depthAll items
  | group kind body | transformed _ kind body =>
    if kind.isImplicit then depth body else depth body + 1
  | repetition _ _ body => depth body
  | custom _ members => ClassMember.depthAll members + 1
  | quote _ | trivia _ | atom _ | leveled _ _ | empty => 0

/-- The depth of the deepest tree of a list. -/
def depthAll : List Pattern → Nat
  | [] => 0
  | p :: ps => max (depth p) (depthAll ps)

end

/-- A list of trees is as deep as its deepest one. -/
theorem depthAll_le_iff {ps : List Pattern} {n : Nat} :
    depthAll ps ≤ n ↔ ∀ p ∈ ps, p.depth ≤ n := by
  induction ps with
  | nil => simp [depthAll]
  | cons p ps ih => rw [depthAll, Nat.max_le, ih, List.forall_mem_cons]

/-- That a sequence of one item is the item itself does not matter, since a sequence adds
nothing. -/
@[simp] theorem depth_ofItems (ps : List Pattern) : (ofItems ps).depth = depthAll ps := by
  cases ps with
  | nil => rfl
  | cons p ps =>
    cases ps with
    | nil => exact (Nat.max_zero _).symm
    | cons q ps => rfl

/-- A group is at most one deeper than its body. -/
theorem depth_group_le (kind : GroupKind) (body : Pattern) :
    (group kind body).depth ≤ body.depth + 1 := by
  rw [depth]
  split
  · exact Nat.le_succ _
  · exact Nat.le_refl _

end Pattern

/-! ## Bracketed classes -/

namespace OpenBracket

variable {limit around : Nat}

/-- The members of open classes, the innermost first, keep the limit; `around` groups lie around the
outermost class. -/
def Keeps (limit around : Nat) : List OpenBracket → Prop
  | [] => True
  | b :: outer =>
    ClassMember.depthAll b.members + (around + outer.length + 1) ≤ limit ∧ Keeps limit around outer

/-- A member joins a class if there is room for its depth inside all that is open around it. -/
theorem Keeps.push {b : OpenBracket} {outer : List OpenBracket} {m : ClassMember}
    (h : Keeps limit around (b :: outer)) (less : m.depth + (around + outer.length + 1) ≤ limit) :
    Keeps limit around (b.push m :: outer) := by
  refine ⟨?_, h.2⟩
  have before := h.1
  rw [OpenBracket.push, ClassMember.depthAll]
  omega

/-- A member that is no class of its own is kept. -/
theorem Keeps.push_flat {b : OpenBracket} {outer : List OpenBracket} {m : ClassMember}
    (h : Keeps limit around (b :: outer)) (flat : m.depth = 0) :
    Keeps limit around (b.push m :: outer) := by
  apply h.push
  have before := h.1
  omega

/-- A set with a name is no bracketed class. -/
theorem depth_of_readPosix {i next : Input} {m : ClassMember} (h : readPosix i = .ok (m, next)) :
    m.depth = 0 := by
  simp only [readPosix] at h
  split at h
  · cases h
  · -- with a caret, and without
    split at h
    all_goals
      split at h
      · cases h
        rfl
      · cases h

/-- A single member or a range is no bracketed class. -/
theorem depth_of_readMember {i next : Input} {m : ClassMember} (h : readMember i = .ok (m, next)) :
    m.depth = 0 := by
  obtain ⟨⟨found | text, i'⟩, _, h⟩ := exists_of_bind_eq_ok h
  · simp only at h
    split at h
    · cases h
      rfl
    · -- the upper end of a range is one character as well
      obtain ⟨⟨high | text, i'⟩, _, h⟩ := exists_of_bind_eq_ok h
      · simp only at h
        split at h
        · cases h
        · cases h
          rfl
      · cases h
  · cases h
    rfl

/-- A class that was opened is empty, and there was room for it. -/
theorem of_openAt {depth : Nat} {i next : Input} {b : OpenBracket}
    (h : openAt limit depth i = .ok (b, next)) : b.members = [] ∧ depth < limit := by
  rw [openAt] at h
  by_cases full : limit ≤ depth
  · rw [if_pos full] at h
    cases h
  · rw [if_neg full] at h
    refine ⟨?_, Nat.lt_of_not_le full⟩
    cases caret : (i.skip 1).accept? '^' with
    | none =>
      rw [caret] at h
      cases h
      rfl
    | some i' =>
      rw [caret] at h
      cases h
      rfl

/-- What a step leads to keeps the limit. -/
def Progress.Keeps (limit around : Nat) : Progress → Prop
  | .reading current outer => OpenBracket.Keeps limit around (current :: outer)
  | .closed inverted members => (Pattern.custom inverted members).depth + around ≤ limit

/-- Closing moves a class into the one around it, which has room for it since it was counted
there. -/
theorem Keeps.step {current : OpenBracket} {outer : List OpenBracket} {i next : Input}
    {progress : Progress} (h : Keeps limit around (current :: outer))
    (stepped : step limit around current outer i = .ok (progress, next)) :
    progress.Keeps limit around := by
  unfold OpenBracket.step at stepped
  split at stepped
  · cases stepped
  · -- a class is closed
    by_cases none : current.members.isEmpty = true
    · rw [if_pos none] at stepped
      cases stepped
    · rw [if_neg none] at stepped
      cases outer with
      | nil =>
        cases stepped
        show ClassMember.depthAll current.members.reverse + 1 + around ≤ limit
        have reversed := ClassMember.depthAll_reverse current.members
        have room := h.1
        rw [List.length_nil] at room
        omega
      | cons parent outer =>
        cases stepped
        apply Keeps.push h.2
        have reversed := ClassMember.depthAll_reverse current.members
        have room := h.1
        rw [List.length_cons] at room
        rw [ClassMember.depth]
        omega
  · obtain ⟨⟨m, i'⟩, read, stepped⟩ := exists_of_bind_eq_ok stepped
    cases stepped
    exact h.push_flat (depth_of_readPosix read)
  · -- a class is opened
    obtain ⟨⟨inner, i'⟩, opened, stepped⟩ := exists_of_bind_eq_ok stepped
    cases stepped
    obtain ⟨none, room⟩ := of_openAt opened
    refine ⟨?_, h⟩
    rw [none, ClassMember.depthAll, List.length_cons]
    omega
  · obtain ⟨⟨m, i'⟩, read, stepped⟩ := exists_of_bind_eq_ok stepped
    cases stepped
    exact h.push_flat (depth_of_readMember read)

/-- By induction on the steps: what they keep holds of the class they end with. -/
theorem Keeps.run {fuel : Nat} {current : OpenBracket} {outer : List OpenBracket} {i next : Input}
    {p : Pattern} (h : Keeps limit around (current :: outer))
    (ran : run limit around fuel current outer i = .ok (p, next)) : p.depth + around ≤ limit := by
  induction fuel generalizing current outer i with
  | zero => cases ran
  | succ fuel ih =>
    obtain ⟨⟨progress, i'⟩, stepped, ran⟩ := exists_of_bind_eq_ok ran
    have kept := h.step stepped
    cases progress with
    | reading current outer => exact ih kept ran
    | closed inverted members =>
      cases ran
      exact kept

/-- A bracketed class that was read keeps the limit together with the groups around it. -/
theorem depth_le_of_read {i next : Input} {p : Pattern}
    (h : read limit around i = .ok (p, next)) : p.depth + around ≤ limit := by
  obtain ⟨⟨current, i'⟩, opened, ran⟩ := exists_of_bind_eq_ok h
  obtain ⟨none, room⟩ := of_openAt opened
  have start : Keeps limit around [current] := by
    refine ⟨?_, trivial⟩
    rw [none, ClassMember.depthAll, List.length_nil]
    omega
  exact start.run ran

end OpenBracket

/-! ## Patterns -/

variable {limit : Nat}

namespace Piece

/-- How deep the tree of a piece is; a change of options adds nothing. -/
def depth : Piece → Nat
  | node p _ => p.depth
  | scope _ => 0

/-- Putting pieces together adds nothing to the depth: a scope takes in what is behind it, and is
not counted. -/
theorem depthAll_assemble_le {pieces : List Piece} {later : List Pattern} {n : Nat}
    (h : ∀ piece ∈ pieces, piece.depth ≤ n) (h' : Pattern.depthAll later ≤ n) :
    Pattern.depthAll (assemble pieces later) ≤ n := by
  induction pieces generalizing later with
  | nil => exact h'
  | cons piece pieces ih =>
    have here : piece.depth ≤ n := h piece List.mem_cons_self
    have front : ∀ piece ∈ pieces, piece.depth ≤ n := fun piece mem =>
      h piece (List.mem_cons_of_mem _ mem)
    cases piece with
    | node p quantifiable => exact ih front (Nat.max_le.2 ⟨here, h'⟩)
    | scope change =>
      -- a scope is no deeper than the pieces it takes in
      have same : Pattern.depthAll [.group (.options change true) (.ofItems later)] =
          Pattern.depthAll later := by
        simp [Pattern.depthAll, Pattern.depth, GroupKind.isImplicit]
      exact ih front (same ▸ h')

end Piece

namespace GroupBody

/-- All that has been read between two parentheses is at most `room` deep. -/
structure Keeps (room : Nat) (b : GroupBody) : Prop where
  branches : Pattern.depthAll b.branches ≤ room
  pieces : ∀ piece ∈ b.pieces, piece.depth ≤ room

variable {room : Nat} {b : GroupBody}

/-- Where nothing has been read, nothing is too deep. -/
theorem Keeps.start : Keeps room .start :=
  ⟨Nat.zero_le _, fun _ mem => absurd mem List.not_mem_nil⟩

theorem Keeps.push {piece : Piece} (h : b.Keeps room) (less : piece.depth ≤ room) :
    (b.push piece).Keeps room :=
  ⟨h.branches, List.forall_mem_cons.2 ⟨less, h.pieces⟩⟩

/-- A branch is made of the pieces that were read for it. -/
theorem Keeps.branch (h : b.Keeps room) : b.branch.depth ≤ room := by
  rw [GroupBody.branch, Pattern.depth_ofItems]
  exact Piece.depthAll_assemble_le h.pieces (Nat.zero_le _)

theorem Keeps.nextBranch (h : b.Keeps room) : b.nextBranch.Keeps room :=
  ⟨Nat.max_le.2 ⟨h.branch, h.branches⟩, fun _ mem => absurd mem List.not_mem_nil⟩

/-- The body is as deep as its deepest branch. -/
theorem Keeps.toPattern (h : b.Keeps room) : b.toPattern.depth ≤ room := by
  rw [GroupBody.toPattern]
  split
  · exact h.branch
  · rw [Pattern.depth, Pattern.depthAll_le_iff]
    intro p mem
    rcases List.mem_cons.1 (List.mem_reverse.1 mem) with rfl | mem
    · exact h.branch
    · exact Pattern.depthAll_le_iff.1 h.branches p mem

end GroupBody

/-- What was read before each of the open groups keeps the limit. -/
def OpenGroup.Keeps (limit : Nat) : List OpenGroup → Prop
  | [] => True
  | g :: groups =>
    groups.length < limit ∧ g.outer.Keeps (limit - groups.length) ∧ Keeps limit groups

namespace Reading

/-- All that has been read keeps the limit. -/
structure Keeps (limit : Nat) (r : Reading) : Prop where
  current : r.current.Keeps (limit - r.groups.length)
  groups : OpenGroup.Keeps limit r.groups

variable {r r' : Reading} {i next : Input} {dialect : Dialect} {unit : Text}

/-- A piece joins the innermost group if there is room for its depth. -/
theorem Keeps.push {piece : Piece} (h : r.Keeps limit)
    (less : piece.depth ≤ limit - r.groups.length) : (r.push piece).Keeps limit :=
  ⟨h.current.push less, h.groups⟩

/-- An operand without groups and classes is kept. -/
theorem Keeps.operand {p : Pattern} (h : r.Keeps limit) (flat : p.depth = 0) :
    (r.operand p).Keeps limit := by
  apply h.push
  rw [Piece.depth, flat]
  exact Nat.zero_le _

/-- The group becomes a piece of the group around it. It is one deeper than its body, and the group
around it had that much room more. -/
theorem Keeps.closeGroup (h : r.Keeps limit) (closed : r.closeGroup i = .ok (r', next)) :
    r'.Keeps limit := by
  obtain ⟨body, groups⟩ := r
  cases groups with
  | nil => cases closed
  | cons g groups =>
    cases closed
    obtain ⟨room, outer, others⟩ := h.groups
    have inner : body.toPattern.depth ≤ limit - (groups.length + 1) := h.current.toPattern
    have around := Pattern.depth_group_le g.kind body.toPattern
    have less : (Pattern.group g.kind body.toPattern).depth ≤ limit - groups.length := by omega
    exact ⟨outer.push less, others⟩

/-- A repetition takes the place of what it repeats, with the same depth. -/
theorem Keeps.quantify {amount : Except ReadFault Amount} {i' : Input} (h : r.Keeps limit)
    (done : r.quantify i amount i' = .ok (r', next)) : r'.Keeps limit := by
  obtain ⟨⟨branches, pieces⟩, groups⟩ := r
  match pieces with
  | .node p true :: pieces =>
    obtain ⟨amount, _, done⟩ := exists_of_bind_eq_ok done
    cases done
    exact ⟨⟨h.current.branches, List.forall_mem_cons.2 (List.forall_mem_cons.1 h.current.pieces)⟩,
      h.groups⟩
  | [] | .node p false :: pieces | .scope change :: pieces => cases done

/-- There is a group more only if the limit was not reached. -/
theorem Keeps.openGroup (h : r.Keeps limit) (opened : openGroup limit r i = .ok (r', next)) :
    r'.Keeps limit := by
  obtain ⟨⟨opening, i'⟩, _, opened⟩ := exists_of_bind_eq_ok opened
  cases opening with
  | comment text =>
    cases opened
    exact h.operand rfl
  | scope change =>
    cases opened
    exact h.push (Nat.zero_le _)
  | group kind =>
    -- here the limit is tested
    by_cases full : limit ≤ r.groups.length
    · simp only [if_pos full] at opened
      cases opened
    · simp only [if_neg full] at opened
      cases opened
      exact ⟨.start, Nat.lt_of_not_le full, h.current, h.groups⟩

theorem depth_of_readLiteral {p : Pattern} (h : readLiteral i = .ok (p, next)) : p.depth = 0 := by
  simp only [readLiteral] at h
  split at h
  · cases h
    rfl
  · cases h

/-- Of the operands, only groups and classes have any depth. -/
theorem Keeps.readOperand (h : r.Keeps limit)
    (read : readOperand dialect limit r unit i = .ok (r', next)) : r'.Keeps limit := by
  unfold Reading.readOperand at read
  split at read
  · exact h.openGroup read
  · obtain ⟨⟨p, i'⟩, bracket, read⟩ := exists_of_bind_eq_ok read
    cases read
    -- the class was read with the limit less the open groups
    have less := OpenBracket.depth_le_of_read bracket
    exact h.push (Nat.le_sub_of_add_le less)
  · obtain ⟨⟨found | text, i'⟩, _, read⟩ := exists_of_bind_eq_ok read
    all_goals
      cases read
      exact h.operand rfl
  · cases read
    exact h.operand rfl
  · cases read
    exact h.operand rfl
  · cases read
    exact h.operand rfl
  · split at read
    · obtain ⟨⟨p, i'⟩, literal, read⟩ := exists_of_bind_eq_ok read
      cases read
      exact h.operand (depth_of_readLiteral literal)
    · cases read
      exact h.operand rfl

/-- Each step keeps the limit. -/
theorem Keeps.step (h : r.Keeps limit) (stepped : step dialect limit r unit i = .ok (r', next)) :
    r'.Keeps limit := by
  unfold Reading.step at stepped
  split at stepped
  · cases stepped
    exact ⟨h.current.nextBranch, h.groups⟩
  · split at stepped
    · exact h.closeGroup stepped
    · split at stepped
      · cases stepped
        exact h.push (Nat.zero_le _)
      · split at stepped
        · exact h.quantify stepped
        · exact h.readOperand stepped

/-- A pattern is finished when no group is open, with all of the limit as its room. -/
theorem Keeps.finish {t : Pattern} (h : r.Keeps limit) (finished : r.finish i = .ok t) :
    t.depth ≤ limit := by
  obtain ⟨body, groups⟩ := r
  cases groups with
  | nil =>
    cases finished
    exact h.current.toPattern
  | cons g groups => cases finished

theorem Keeps.run {fuel : Nat} {t : Pattern} (h : r.Keeps limit)
    (ran : run dialect limit fuel r i = .ok t) : t.depth ≤ limit := by
  induction fuel generalizing r i with
  | zero => exact h.finish ran
  | succ fuel ih =>
    unfold Reading.run at ran
    split at ran
    · exact h.finish ran
    · obtain ⟨⟨r', i'⟩, stepped, ran⟩ := exists_of_bind_eq_ok ran
      exact ih (h.step stepped) ran

end Reading

/-- The limit bounds the depth of every tree that is read. -/
theorem Pattern.depth_le_of_parse {source : Text} {dialect : Dialect} {t : Pattern}
    (h : Pattern.parse source dialect limit = .ok t) : t.depth ≤ limit := by
  have start : Reading.Keeps limit ⟨.start, []⟩ := ⟨.start, trivial⟩
  exact start.run h

end GraphemeRegex
