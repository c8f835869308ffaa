import GraphemeRegex.Proofs.Reading.Nesting
import GraphemeRegex.Proofs.Reading.Totality

/-! # Deepening — what is too deep stays so

What has been read becomes a part of the tree, and nothing makes it less deep. If the limit is kept
after a step, or by the tree in the end, it was kept all the time; the steps themselves may have
been made with any other limit.

* `OpenBracket.Keeps.of_step`, `OpenBracket.Keeps.of_run`: bracketed classes.
* `GroupBody.Keeps.of_toPattern`: the body of a group.
* `Reading.Keeps.of_step`, `Reading.Keeps.of_run`: patterns.
-/

namespace GraphemeRegex

variable {limit limit' : Nat}

/-! ## Bracketed classes -/

namespace OpenBracket

variable {around : Nat} {b current : OpenBracket} {outer : List OpenBracket} {i next : Input}

/-- A member that joins a class was not too deep, and the class without it is kept. -/
theorem Keeps.of_push {m : ClassMember} (h : Keeps limit around (b.push m :: outer)) :
    m.depth + (around + outer.length + 1) ≤ limit ∧ Keeps limit around (b :: outer) := by
  obtain ⟨room, others⟩ := h
  rw [OpenBracket.push, ClassMember.depthAll] at room
  refine ⟨by omega, ?_, others⟩
  omega

/-- What a step leads to was already kept before it. -/
theorem Keeps.of_step {progress : Progress}
    (stepped : OpenBracket.step limit' around current outer i = .ok (progress, next))
    (h : progress.Keeps limit around) : Keeps limit around (current :: outer) := by
  unfold OpenBracket.step at stepped
  split at stepped
  · cases stepped
  · -- a class is closed
    by_cases none : current.members.isEmpty = true
    · rw [if_pos none] at stepped
      cases stepped
    · rw [if_neg none] at stepped
      have reversed := ClassMember.depthAll_reverse current.members
      cases outer with
      | nil =>
        cases stepped
        have room : ClassMember.depthAll current.members.reverse + 1 + around ≤ limit := h
        refine ⟨?_, trivial⟩
        rw [List.length_nil]
        omega
      | cons parent outer =>
        cases stepped
        obtain ⟨room, others⟩ := Keeps.of_push h
        rw [ClassMember.depth] at room
        refine ⟨?_, others⟩
        rw [List.length_cons]
        omega
  · obtain ⟨⟨m, i'⟩, _, stepped⟩ := exists_of_bind_eq_ok stepped
    cases stepped
    exact (Keeps.of_push h).2
  · -- a class is opened
    obtain ⟨⟨inner, i'⟩, _, stepped⟩ := exists_of_bind_eq_ok stepped
    cases stepped
    exact h.2
  · obtain ⟨⟨m, i'⟩, _, stepped⟩ := exists_of_bind_eq_ok stepped
    cases stepped
    exact (Keeps.of_push h).2

/-- A class that is kept when it has been read was kept at each step. -/
theorem Keeps.of_run {fuel : Nat} {p : Pattern}
    (ran : OpenBracket.run limit' around fuel current outer i = .ok (p, next))
    (h : p.depth + around ≤ limit) : Keeps limit around (current :: outer) := by
  induction fuel generalizing current outer i with
  | zero => cases ran
  | succ fuel ih =>
    obtain ⟨⟨progress, i'⟩, stepped, ran⟩ := exists_of_bind_eq_ok ran
    cases progress with
    | reading current outer => exact Keeps.of_step stepped (ih ran)
    | closed inverted members =>
      cases ran
      exact Keeps.of_step stepped h

end OpenBracket

/-! ## Bodies -/

/-- Assembling the pieces of a sequence hides none of them: each piece is inside the result. -/
theorem Piece.depth_le_of_depthAll_assemble_le {pieces : List Piece} {later : List Pattern}
    {n : Nat} (h : Pattern.depthAll (assemble pieces later) ≤ n) :
    (∀ piece ∈ pieces, piece.depth ≤ n) ∧ Pattern.depthAll later ≤ n := by
  induction pieces generalizing later with
  | nil => exact ⟨nofun, h⟩
  | cons piece pieces ih =>
    obtain ⟨front, back⟩ := ih h
    cases piece with
    | node p quantifiable =>
      obtain ⟨here, behind⟩ := Nat.max_le.1 back
      exact ⟨List.forall_mem_cons.2 ⟨here, front⟩, behind⟩
    | scope change =>
      -- a scope is as deep as what it takes in
      have same : Pattern.depthAll [.group (.options change true) (.ofItems later)] =
          Pattern.depthAll later := by
        simp [Pattern.depthAll, Pattern.depth, GroupKind.isImplicit]
      exact ⟨List.forall_mem_cons.2 ⟨Nat.zero_le _, front⟩, same ▸ back⟩

namespace GroupBody

variable {room : Nat} {b : GroupBody}

/-- A body without its last piece. -/
theorem Keeps.of_push {piece : Piece} (h : (b.push piece).Keeps room) : b.Keeps room :=
  ⟨h.branches, (List.forall_mem_cons.1 h.pieces).2⟩

/-- The pieces of a branch are in the branch. -/
theorem pieces_of_branch (h : b.branch.depth ≤ room) : ∀ piece ∈ b.pieces, piece.depth ≤ room := by
  rw [GroupBody.branch, Pattern.depth_ofItems] at h
  exact (Piece.depth_le_of_depthAll_assemble_le h).1

/-- Beginning a branch puts the one before among the branches. -/
theorem Keeps.of_nextBranch (h : b.nextBranch.Keeps room) : b.Keeps room := by
  obtain ⟨here, before⟩ := Nat.max_le.1 h.branches
  exact ⟨before, pieces_of_branch here⟩

/-- The finished body holds its branches and the pieces of the last one. -/
theorem Keeps.of_toPattern (h : b.toPattern.depth ≤ room) : b.Keeps room := by
  obtain ⟨branches, pieces⟩ := b
  cases branches with
  | nil => exact ⟨Nat.zero_le _, pieces_of_branch h⟩
  | cons p branches =>
    have all : ∀ q ∈ GroupBody.branch ⟨p :: branches, pieces⟩ :: p :: branches, q.depth ≤ room := by
      intro q mem
      exact Pattern.depthAll_le_iff.1 h q (List.mem_reverse.2 mem)
    obtain ⟨here, before⟩ := List.forall_mem_cons.1 all
    exact ⟨Pattern.depthAll_le_iff.2 before, pieces_of_branch here⟩

end GroupBody

/-! ## Patterns -/

namespace Reading

variable {r r' : Reading} {i next : Input} {dialect : Dialect} {unit : Text} {source : Text}

/-- Open groups are not more than the limit. -/
theorem Keeps.length_le (h : r.Keeps limit) : r.groups.length ≤ limit := by
  obtain ⟨body, groups⟩ := r
  cases groups with
  | nil => exact Nat.zero_le _
  | cons g groups => exact h.groups.1

/-- A reading without its last piece. -/
theorem Keeps.of_push {piece : Piece} (h : (r.push piece).Keeps limit) : r.Keeps limit :=
  ⟨h.current.of_push, h.groups⟩

/-- Closing a group makes a piece of it that is as deep as the group was open. Scopes do not count,
and none of them is left open. -/
theorem Keeps.of_closeGroup (closed : ∀ g ∈ r.groups, g.kind.isImplicit = false)
    (stepped : r.closeGroup i = .ok (r', next)) (h : r'.Keeps limit) : r.Keeps limit := by
  obtain ⟨body, groups⟩ := r
  cases groups with
  | nil => cases stepped
  | cons g groups =>
    cases stepped
    have group : (Pattern.group g.kind body.toPattern).depth ≤ limit - groups.length :=
      (List.forall_mem_cons.1 h.current.pieces).1
    rw [Pattern.depth, closed g List.mem_cons_self, if_neg Bool.false_ne_true] at group
    have room : groups.length < limit := by omega
    have inner : body.toPattern.depth ≤ limit - (groups.length + 1) := by omega
    exact ⟨.of_toPattern inner, room, h.current.of_push, h.groups⟩

/-- A repetition is as deep as what it repeats. -/
theorem Keeps.of_quantify {amount : Except ReadFault Amount} {i' : Input}
    (done : r.quantify i amount i' = .ok (r', next)) (h : r'.Keeps limit) : r.Keeps limit := by
  obtain ⟨⟨branches, pieces⟩, groups⟩ := r
  match pieces with
  | .node p true :: pieces =>
    obtain ⟨amount, _, done⟩ := exists_of_bind_eq_ok done
    cases done
    exact ⟨⟨h.current.branches, List.forall_mem_cons.2 (List.forall_mem_cons.1 h.current.pieces)⟩,
      h.groups⟩
  | [] | .node p false :: pieces | .scope change :: pieces => cases done

/-- A comment or a scope is a piece; a group is open from now on. -/
theorem Keeps.of_openGroup (opened : Reading.openGroup limit' r i = .ok (r', next))
    (h : r'.Keeps limit) : r.Keeps limit := by
  obtain ⟨⟨opening, i'⟩, _, opened⟩ := exists_of_bind_eq_ok opened
  cases opening with
  | comment text =>
    cases opened
    exact h.of_push
  | scope change =>
    cases opened
    exact h.of_push
  | group kind =>
    -- with the limit of the steps there was still room for the group
    by_cases full : limit' ≤ r.groups.length
    · simp only [if_pos full] at opened
      cases opened
    · simp only [if_neg full] at opened
      cases opened
      exact ⟨h.groups.2.1, h.groups.2.2⟩

/-- Whatever is read as an operand becomes a piece or opens a group. -/
theorem Keeps.of_readOperand (read : Reading.readOperand dialect limit' r unit i = .ok (r', next))
    (h : r'.Keeps limit) : r.Keeps limit := by
  unfold Reading.readOperand at read
  split at read
  · exact Keeps.of_openGroup read h
  · obtain ⟨⟨p, i'⟩, _, read⟩ := exists_of_bind_eq_ok read
    cases read
    exact h.of_push
  · obtain ⟨⟨found | text, i'⟩, _, read⟩ := exists_of_bind_eq_ok read
    all_goals
      cases read
      exact h.of_push
  · cases read
    exact h.of_push
  · cases read
    exact h.of_push
  · cases read
    exact h.of_push
  · -- the units without a meaning of their own
    split at read
    · obtain ⟨⟨p, i'⟩, _, read⟩ := exists_of_bind_eq_ok read
      cases read
      exact h.of_push
    · cases read
      exact h.of_push

/-- What a step leads to was already kept before it. -/
theorem Keeps.of_step (closed : ∀ g ∈ r.groups, g.kind.isImplicit = false)
    (stepped : Reading.step dialect limit' r unit i = .ok (r', next)) (h : r'.Keeps limit) :
    r.Keeps limit := by
  unfold Reading.step at stepped
  split at stepped
  · cases stepped
    -- a bar
    exact ⟨h.current.of_nextBranch, h.groups⟩
  · split at stepped
    · -- a closing parenthesis; behind it white space, quantifiers and operands
      exact Keeps.of_closeGroup closed stepped h
    · split at stepped
      · cases stepped
        exact h.of_push
      · split at stepped
        · exact Keeps.of_quantify stepped h
        · exact Keeps.of_readOperand stepped h

/-- At the end no group is open. -/
theorem Keeps.of_finish {t : Pattern} (finished : r.finish i = .ok t) (h : t.depth ≤ limit) :
    r.Keeps limit := by
  obtain ⟨body, groups⟩ := r
  cases groups with
  | nil =>
    cases finished
    exact ⟨.of_toPattern h, trivial⟩
  | cons g groups => cases finished

/-- By induction on the steps, backwards from the tree. -/
theorem Keeps.of_run {fuel : Nat} {t : Pattern} (fits : r.Fits source limit' i)
    (ran : Reading.run dialect limit' fuel r i = .ok t) (h : t.depth ≤ limit) :
    r.Keeps limit := by
  induction fuel generalizing r i with
  | zero => exact Keeps.of_finish ran h
  | succ fuel ih =>
    cases units : i.rest with
    | nil =>
      rw [run_of_nil units] at ran
      exact Keeps.of_finish ran h
    | cons unit rest =>
      unfold Reading.run at ran
      rw [units] at ran
      obtain ⟨⟨r', i'⟩, stepped, ran⟩ := exists_of_bind_eq_ok ran
      -- groups that are open have parentheses, also after the step
      have moved := (fits.step units).of_eq_ok stepped
      have closed : ∀ g ∈ r.groups, g.kind.isImplicit = false :=
        fun g mem => (fits.groups g mem).closed
      exact Keeps.of_step closed stepped (ih moved.fits ran)

end Reading

end GraphemeRegex
