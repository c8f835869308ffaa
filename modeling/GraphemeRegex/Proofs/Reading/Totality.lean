import GraphemeRegex.Proofs.Reading.Brackets
import GraphemeRegex.Reading.Snippet

/-! # Totality — every source has a tree of one shape, or a fault that is placed in it

Reading goes from unit to unit through the whole source. Wherever it stands, the groups that are
open begin at different parentheses that have been read, and all parts of the tree so far have the
right shape. One step keeps this, so a run does.

* `Reading.Reached`: the readings and inputs that a source leads to.
* `Reading.Fits`: a reading fits the place where it stands; `Reading.Reached.fits`: all of them do.
* `Pattern.shaped_of_parse`: the shape of every tree that is read.
* `Pattern.parse_total`: what reading comes to for any source.
-/

namespace GraphemeRegex

open Text

variable {source : Text} {dialect : Dialect} {limit : Nat} {i j : Input}

/-! ## Open groups -/

namespace OpenGroup

/-- A group that is open has a kind with parentheses, and what was read before it has the right
shape. -/
structure Proper (source : Text) (g : OpenGroup) : Prop where
  kind : g.kind.Proper
  closed : g.kind.isImplicit = false
  outer : g.outer.Shaped source

/-- The open groups, the innermost first, begin at opening parentheses of the source, each in front
of the one before it and the first in front of the offset `last`. There are no more of them than the
limit allows. -/
structure Nested (source : Text) (limit last : Nat) (groups : List OpenGroup) : Prop where
  opened : ∀ g ∈ groups, ∃ rest, Input.Of source ⟨g.start, ['('] :: rest⟩
  inward : (last :: groups.map start).Pairwise (· > ·)
  room : groups.length ≤ limit

variable {last last' : Nat} {g : OpenGroup} {groups : List OpenGroup}

theorem Nested.nil : Nested source limit last [] :=
  ⟨nofun, List.pairwise_singleton _ _, Nat.zero_le _⟩

/-- Open groups are still nested further on. -/
theorem Nested.later (h : Nested source limit last groups) (le : last ≤ last') :
    Nested source limit last' groups where
  opened := h.opened
  inward := by
    obtain ⟨front, others⟩ := List.pairwise_cons.1 h.inward
    exact List.pairwise_cons.2 ⟨fun n mem => Nat.lt_of_lt_of_le (front n mem) le, others⟩
  room := h.room

/-- Without the innermost group, the others are nested. -/
theorem Nested.close (h : Nested source limit last (g :: groups)) :
    Nested source limit last groups where
  opened := (List.forall_mem_cons.1 h.opened).2
  inward := by
    obtain ⟨front, others⟩ := List.pairwise_cons.1 h.inward
    obtain ⟨_, others⟩ := List.pairwise_cons.1 others
    exact List.pairwise_cons.2 ⟨fun n mem => front n (List.mem_cons_of_mem _ mem), others⟩
  room := Nat.le_of_lt h.room

/-- A group is opened behind all that are open, if the limit leaves room. -/
theorem Nested.open {kind : GroupKind} {outer : GroupBody} {rest : List Text}
    (h : Nested source limit i.offset groups) (of : i.Of source) (units : i.rest = ['('] :: rest)
    (room : groups.length < limit) (lt : i.offset < last) :
    Nested source limit last (⟨i.offset, kind, outer⟩ :: groups) where
  opened := by
    have same : (⟨i.offset, ['('] :: rest⟩ : Input) = i := by rw [← units]
    exact List.forall_mem_cons.2 ⟨⟨rest, same ▸ of⟩, h.opened⟩
  inward := by
    refine List.pairwise_cons.2 ⟨List.forall_mem_cons.2 ⟨lt, fun n mem => ?_⟩, h.inward⟩
    exact Nat.lt_trans ((List.pairwise_cons.1 h.inward).1 n mem) lt
  room := room

end OpenGroup

/-! ## Readings that fit -/

namespace Reading

/-- What has been read has the right shape, and what is left belongs to the same source. -/
structure Fits (source : Text) (limit : Nat) (i : Input) (r : Reading) : Prop where
  of : i.Of source
  nested : OpenGroup.Nested source limit i.offset r.groups
  current : r.current.Shaped source
  groups : ∀ g ∈ r.groups, g.Proper source

/-- A reading that fits, behind the unit that begins at `start`. -/
structure Moved (source : Text) (limit start : Nat) (found : Reading × Input) : Prop where
  fits : found.1.Fits source limit found.2
  past : found.2.Past source start

variable {r r' : Reading} {unit : Text} {rest : List Text}

theorem Fits.start (source : Text) (limit : Nat) :
    Fits source limit (.ofText source) ⟨.start, []⟩ :=
  ⟨.ofText source, .nil, .start, nofun⟩

/-- Reading stands behind the parenthesis of each open group. -/
theorem Fits.past_of_mem (h : r.Fits source limit i) {g : OpenGroup} (mem : g ∈ r.groups) :
    i.Past source g.start where
  of := h.of
  begins := by
    obtain ⟨rest, opened⟩ := h.nested.opened g mem
    exact opened.mem_boundaries
  lt := (List.pairwise_cons.1 h.nested.inward).1 _ (List.mem_map_of_mem mem)

/-- The innermost body changes behind the unit that the change begins with. -/
theorem Fits.moved {body : GroupBody} (h : r.Fits source limit i) (shaped : body.Shaped source)
    (past : j.Past source i.offset) : Moved source limit i.offset (⟨body, r.groups⟩, j) :=
  ⟨⟨past.of, h.nested.later (Nat.le_of_lt past.lt), shaped, h.groups⟩, past⟩

/-- A piece joins what was read. -/
theorem Fits.push {piece : Piece} (h : r.Fits source limit i) (proper : piece.Proper source)
    (past : j.Past source i.offset) : Moved source limit i.offset (r.push piece, j) :=
  h.moved (h.current.push proper) past

theorem Fits.operand {p : Pattern} (h : r.Fits source limit i) (proper : p.Operand source)
    (past : j.Past source i.offset) : Moved source limit i.offset (r.operand p, j) :=
  h.push proper past

/-! ## Steps -/

/-- A closing parenthesis needs an open group, which becomes an operand. -/
theorem Fits.closeGroup (h : r.Fits source limit i) (units : i.rest = unit :: rest) :
    source.Reads (Moved source limit i.offset) (r.closeGroup i) := by
  obtain ⟨body, groups⟩ := r
  have past : (i.skip 1).Past source i.offset := h.of.past_skip units 0
  cases groups with
  | nil => exact h.of.errorHere _
  | cons g groups =>
    obtain ⟨proper, others⟩ := List.forall_mem_cons.1 h.groups
    have group : (Pattern.group g.kind body.toPattern).Operand source :=
      ⟨⟨proper.kind, h.current.toPattern⟩, rfl, proper.closed⟩
    have nested := h.nested.close.later (Nat.le_of_lt past.lt)
    exact ⟨⟨past.of, nested, proper.outer.push group, others⟩, past⟩

/-- A quantifier needs an operand in front of it, which it repeats. -/
theorem Fits.quantify {amount : Except ReadFault Amount} (h : r.Fits source limit i)
    (past : j.Past source i.offset) :
    source.Reads (Moved source limit i.offset) (r.quantify i amount j) := by
  obtain ⟨⟨branches, pieces⟩, groups⟩ := r
  unfold Reading.quantify
  dsimp only
  split
  case h_1 p pieces =>
    obtain ⟨operand, others⟩ := List.forall_mem_cons.1 h.current.pieces
    refine past.locate.bind fun amount _ => ?_
    have repeated := Pattern.Operand.repetition operand amount (Quantifier.readGreed j).1
    exact h.moved ⟨h.current.branches, List.forall_mem_cons.2 ⟨repeated, others⟩⟩
      (Quantifier.past_readGreed past)
  case h_2 => exact h.of.errorHere _

/-- An opening parenthesis is a comment, a change of options or a group. -/
theorem Fits.openGroup (h : r.Fits source limit i) (units : i.rest = ['('] :: rest) :
    source.Reads (Moved source limit i.offset) (openGroup limit r i) := by
  refine (Opening.outcome_read h.of units).bind fun opening j proper past => ?_
  cases opening with
  | comment text => exact h.operand ⟨trivial, rfl, rfl⟩ past
  | scope change => exact h.push proper past
  | group kind =>
    dsimp only
    split
    · exact past.errorFrom _
    case isFalse room =>
      have room := Nat.lt_of_not_le room
      refine ⟨⟨past.of, h.nested.open h.of units room past.lt, .start, ?_⟩, past⟩
      exact List.forall_mem_cons.2 ⟨⟨proper.1, proper.2, h.current⟩, h.groups⟩

/-- A quote is read to where it is closed, or it is a fault from where it began. -/
theorem outcome_readLiteral (h : i.Of source) (units : i.rest = unit :: rest) :
    source.Yields i.offset (Pattern.Operand source) (readLiteral i) := by
  have past : (i.skip 1).Past source i.offset := h.past_skip units 0
  have text := past.spanWhile (· != ['"'])
  unfold readLiteral
  dsimp only
  split
  case h_1 j found => exact ⟨⟨trivial, rfl, rfl⟩, text.accept? found⟩
  case h_2 => exact text.errorFrom _

/-- Whatever is read as an operand has the shape of one. -/
theorem Fits.readOperand (h : r.Fits source limit i) (units : i.rest = unit :: rest) :
    source.Reads (Moved source limit i.offset) (readOperand dialect limit r unit i) := by
  have past : (i.skip 1).Past source i.offset := h.of.past_skip units 0
  -- most operands are single atoms
  have atom {a : Atom} {j : Input} (proper : a.Proper source) (past : j.Past source i.offset) :
      Moved source limit i.offset (r.operand (.atom a), j) :=
    h.operand ⟨proper, rfl, rfl⟩ past
  unfold Reading.readOperand
  split
  · exact h.openGroup units
  · exact (OpenBracket.outcome_read h.of units).bind fun p j proper past => h.operand proper past
  · refine (Escape.outcome_read h.of units).bind fun found j proper past => ?_
    cases found with
    | atom a => exact atom proper past
    | quote text => exact h.operand ⟨trivial, rfl, rfl⟩ past
  · exact atom trivial past
  · exact atom trivial past
  · exact atom trivial past
  · split
    · exact (outcome_readLiteral h.of units).bind fun p j proper past => h.operand proper past
    · -- nothing special: a cluster that matches itself
      have mem : unit ∈ i.rest := units ▸ List.mem_cons_self
      exact atom ⟨h.of.mem_clusters mem, h.of.ne_nil mem⟩ past

/-- One step reads at least one unit, and all that has been read keeps its shape. -/
theorem Fits.step (h : r.Fits source limit i) (units : i.rest = unit :: rest) :
    source.Reads (Moved source limit i.offset) (step dialect limit r unit i) := by
  have past : (i.skip 1).Past source i.offset := h.of.past_skip units 0
  unfold Reading.step
  split
  · -- the next branch
    exact h.moved h.current.nextBranch past
  · split
    · -- the end of a group; then white space, quantifiers and operands
      exact h.closeGroup units
    · split
      case isTrue blank =>
        exact h.push ⟨trivial, rfl, rfl⟩
          (h.of.past_spanWhile units (Bool.and_eq_true_iff.1 blank).2)
      · split
        case h_1 amount j found => exact h.quantify (Quantifier.past_readAmount? h.of found)
        case h_2 => exact h.readOperand units

/-! ## Runs -/

/-- The readings and inputs that a source leads to. -/
inductive Reached (source : Text) (dialect : Dialect) (limit : Nat) : Reading → Input → Prop where
  | start : Reached source dialect limit ⟨.start, []⟩ (.ofText source)
  | step {r r' : Reading} {i j : Input} {unit : Text} {rest : List Text}
    (before : Reached source dialect limit r i) (units : i.rest = unit :: rest)
    (stepped : Reading.step dialect limit r unit i = .ok (r', j)) :
    Reached source dialect limit r' j

/-- Whatever is reached fits the source. -/
theorem Reached.fits (h : Reached source dialect limit r i) : r.Fits source limit i := by
  induction h with
  | start => exact .start source limit
  | @step r r' i j unit rest before units stepped ih =>
    exact ((ih.step units).of_eq_ok stepped).fits

/-- The source has been read to its end, and every group is closed. -/
structure Ends (source : Text) (dialect : Dialect) (limit : Nat) (r : Reading) (i : Input) :
    Prop where
  reached : Reached source dialect limit r i
  done : i.rest = []
  closed : r.groups = []

/-- At the end of the source, every group has to be closed. -/
theorem Reached.finish (h : Reached source dialect limit r i) (done : i.rest = []) :
    source.Reads (fun t => ∃ r i, Ends source dialect limit r i ∧ t = r.current.toPattern)
      (r.finish i) := by
  obtain ⟨body, groups⟩ := r
  cases groups with
  | nil => exact ⟨_, i, ⟨h, done, rfl⟩, rfl⟩
  | cons g groups => exact (h.fits.past_of_mem List.mem_cons_self).errorFrom _

/-- As many steps as there are units lead to the end of the source. -/
theorem Reached.run {fuel : Nat} (h : Reached source dialect limit r i)
    (enough : i.rest.length ≤ fuel) :
    source.Reads (fun t => ∃ r i, Ends source dialect limit r i ∧ t = r.current.toPattern)
      (run dialect limit fuel r i) := by
  induction fuel generalizing r i with
  | zero => exact h.finish (List.length_eq_zero_iff.1 (Nat.le_zero.1 enough))
  | succ fuel ih =>
    unfold Reading.run
    split
    case h_1 done => exact h.finish done
    case h_2 unit rest units =>
      cases stepped : Reading.step dialect limit r unit i with
      | error e => exact (h.fits.step units).of_eq_error stepped
      | ok found =>
        obtain ⟨r', j⟩ := found
        have one := (h.fits.step units).of_eq_ok stepped
        -- a step takes at least one unit, so the fuel still covers what is left
        have fewer : j.rest.length < i.rest.length := one.past.length_lt h.fits.of
        exact ih (h.step units stepped) (by omega)

/-- Nothing left, nothing to run. -/
theorem run_of_nil {fuel : Nat} (done : i.rest = []) : run dialect limit fuel r i = r.finish i := by
  cases fuel with
  | zero => rfl
  | succ fuel =>
    unfold Reading.run
    rw [done]

/-- As much fuel as there are units is never used up, so that more changes nothing. -/
theorem Fits.run_eq_of_length_le {fuel fuel' : Nat} (h : r.Fits source limit i)
    (enough : i.rest.length ≤ fuel) (enough' : i.rest.length ≤ fuel') :
    run dialect limit fuel r i = run dialect limit fuel' r i := by
  refine eq_of_enough (s := (r, i)) (w := fun s => s.2.rest.length)
    (f := fun fuel s => run dialect limit fuel s.1 s.2) (P := fun s => s.1.Fits source limit s.2)
    (fun s none n m => ?_) (fun s h n m ih => ?_) h enough enough'
  · have done : s.2.rest = [] := List.length_eq_zero_iff.1 none
    rw [run_of_nil done, run_of_nil done]
  · obtain ⟨r, i⟩ := s
    dsimp only
    cases units : i.rest with
    | nil => rw [run_of_nil units, run_of_nil units]
    | cons unit rest =>
      unfold Reading.run
      rw [units]
      dsimp only
      cases stepped : Reading.step dialect limit r unit i with
      | error e => rfl
      | ok found =>
        obtain ⟨r', j⟩ := found
        have one := (h.step units).of_eq_ok stepped
        -- a step that succeeds leaves fewer units and a reading that fits
        exact ih (r', j) one.fits (one.past.length_lt h.of)

/-- The fuel of the loops over the units of a source is never used up: with more of it, each of them
comes to the same. -/
structure FuelSuffices (source : Text) (dialect : Dialect) (limit : Nat) : Prop where
  options : ∀ i : Input, i.Of source → ∀ removing fuel, i.rest.length ≤ fuel →
    Opening.readOptions removing fuel i = Opening.readOptions removing i.rest.length i
  brackets : ∀ i j : Input, i.Of source → i.rest ≠ [] →
    ∀ depth b, OpenBracket.openAt limit depth i = .ok (b, j) → ∀ fuel, j.rest.length ≤ fuel →
      OpenBracket.run limit depth fuel b [] j = OpenBracket.run limit depth j.rest.length b [] j
  operands : ∀ fuel, source.clusters.length ≤ fuel →
    run dialect limit fuel ⟨.start, []⟩ (.ofText source) = Pattern.parse source dialect limit

theorem fuelSuffices (source : Text) (dialect : Dialect) (limit : Nat) :
    FuelSuffices source dialect limit where
  options _ of _ _ enough := Opening.readOptions_eq_of_length_le of enough (Nat.le_refl _)
  brackets i j of filled depth b opened fuel enough := by
    obtain ⟨unit, rest, units⟩ := List.exists_cons_of_ne_nil filled
    have found := (OpenBracket.outcome_openAt of units).of_eq_ok opened
    exact OpenBracket.run_eq_of_length_le found.2.of (List.forall_mem_singleton.2 found.1) enough
      (Nat.le_refl _)
  operands fuel enough :=
    (Fits.start source limit).run_eq_of_length_le enough (Nat.le_refl _)

end Reading

/-! ## Ranges of errors -/

namespace ReadError.Placed

variable {e : ReadError}

/-- An error does not concern bytes behind the source. -/
theorem last_le (h : e.Placed source) : e.last ≤ source.byteLength := by
  obtain ⟨p, between, here⟩ := List.mem_map.1 h.last_mem
  exact here ▸ offset_le_byteLength (Between.reaches between)

/-- The bytes of an error are marked as they are. -/
theorem adjustRange_eq (h : e.Placed source) :
    Snippet.adjustRange e.first e.last source.byteLength = (e.first, e.last) := by
  have last := h.last_le
  have first := h.first_le
  unfold Snippet.adjustRange
  dsimp only
  rw [Nat.min_eq_left last, Nat.min_eq_left (Nat.le_trans first last)]
  split
  case isTrue same =>
    have here := h.at_end same
    rw [Nat.min_eq_right (by omega), ← here, ← same]
  case isFalse => rfl

end ReadError.Placed

/-! ## All sources -/

namespace Pattern

/-- A source has as many units as there is fuel. -/
theorem reads_parse (source : Text) (dialect : Dialect) (limit : Nat) :
    source.Reads
      (fun t => ∃ r i, Reading.Ends source dialect limit r i ∧ t = r.current.toPattern)
      (parse source dialect limit) :=
  Reading.Reached.start.run (Nat.le_refl _)

/-- Every tree that is read has the same shape at all of its places. -/
theorem shaped_of_parse {t : Pattern} (h : parse source dialect limit = .ok t) :
    t.Shaped source := by
  obtain ⟨r, i, ends, rfl⟩ := (reads_parse source dialect limit).of_eq_ok h
  exact ends.reached.fits.current.toPattern

theorem shaped_of_parse_scope :
    parse "(?i)[b-d]+|\\k<x>".toList .traditional 1 = .ok (.alternation
        [.group (.options ⟨false, [.caseInsensitive], []⟩ true)
          (.repetition .oneOrMore .eager (.custom false [.range (.char ['b']) (.char ['d'])])),
        .atom (.backreference (.named ['x']))]) ∧
      Shaped "(?i)[b-d]+|\\k<x>".toList (.alternation
        [.group (.options ⟨false, [.caseInsensitive], []⟩ true)
          (.repetition .oneOrMore .eager (.custom false [.range (.char ['b']) (.char ['d'])])),
        .atom (.backreference (.named ['x']))]) :=
  ⟨by decide +kernel, @shaped_of_parse _ .traditional 1 _ (by decide +kernel)⟩

/-- A source is read to its end, with every group closed, or up to a fault. Wherever reading stands,
and wherever it cuts out a text, is a position of the source; no loop is cut short; and the range of
a fault consists of whole clusters, and of none only at the end, so that it is marked as it is. -/
theorem parse_total (source : Text) (dialect : Dialect) (limit : Nat) :
    (∀ r i, Reading.Reached source dialect limit r i →
      i.Of source ∧ OpenGroup.Nested source limit i.offset r.groups) ∧
    (∀ i : Input, i.Of source → ∀ count, ∃ p q, source.positionAt? i.offset = some p ∧
      source.positionAt? (i.skip count).offset = some q ∧
      p.after? (i.rest.take count).flatten = some q) ∧
    Reading.FuelSuffices source dialect limit ∧
    ((∃ r i, Reading.Ends source dialect limit r i ∧ i.offset = source.byteLength ∧
        parse source dialect limit = .ok r.current.toPattern) ∨
      ∃ e, parse source dialect limit = .error e ∧ e.Placed source ∧
        e.last ≤ source.byteLength ∧
        Snippet.adjustRange e.first e.last source.byteLength = (e.first, e.last) ∧
        (source.positionAt? e.first).isSome ∧ (source.positionAt? e.last).isSome) := by
  refine ⟨fun r i reached => ⟨reached.fits.of, reached.fits.nested⟩, fun i of count => ?_,
    Reading.fuelSuffices source dialect limit, ?_⟩
  · exact ⟨_, _, of.positionAt?, (of.skip count).positionAt?, i.after?_take count⟩
  · -- the two ends of a run
    cases result : parse source dialect limit with
    | ok t =>
      obtain ⟨r, i, ends, rfl⟩ := (reads_parse source dialect limit).of_eq_ok result
      exact .inl ⟨r, i, ends, ends.reached.fits.of.offset_of_nil ends.done, rfl⟩
    | error e =>
      have placed := (reads_parse source dialect limit).of_eq_error result
      exact .inr ⟨e, rfl, placed, placed.last_le, placed.adjustRange_eq,
        isSome_positionAt?_of_mem placed.first_mem, isSome_positionAt?_of_mem placed.last_mem⟩

end Pattern

end GraphemeRegex
