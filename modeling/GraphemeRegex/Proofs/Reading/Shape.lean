import GraphemeRegex.Reading.Parse

/-! # Shape — what every tree that is read looks like

Reading builds each tree in one way only: lists of parts are never nested in each other without
something around them, a scope of options takes in all that follows it, and every leaf is made of
units of the source.

* `Pattern.Shaped`: the shape of a tree, at every place of it.
* `Pattern.Items.shaped_ofItems`: items of a sequence make a tree of this shape.
* `GroupBody.Shaped.toPattern`: so does what has been read between two parentheses.
-/

namespace GraphemeRegex

variable {source : Text}

/-! ## Names, options and kinds of groups -/

/-- A name of a group: not empty, and made of letters, numbers and underscores. -/
def Text.IsName (name : Text) : Prop :=
  name ≠ [] ∧ ∀ c ∈ name, Property.alphanumeric.holds c = true ∨ c = '_'

/-- A change of options changes something, and removes neither anything after a caret nor a choice
of segments. -/
structure OptionSequence.Proper (change : OptionSequence) : Prop where
  filled : change.caret = false → change.adding ≠ [] ∨ change.removing ≠ []
  resets : change.caret = true → change.removing = []
  segmented : ∀ option ∈ change.removing, option.isSegmentation = false

/-- The name or the change of options of a kind is proper. -/
def GroupKind.Proper : GroupKind → Prop
  | named name => name.IsName
  | options change _ => change.Proper
  | _ => True

/-! ## Atoms and members of classes -/

/-- The name of a reference, if it has one, is proper. -/
def Reference.Proper : Reference → Prop
  | named name => name.IsName
  | _ => True

/-- A cluster that matches itself is one of the source, and a reference is proper. -/
def Atom.Proper (source : Text) : Atom → Prop
  | char text => text ∈ source.clusters ∧ text ≠ []
  | backreference r => r.Proper
  | _ => True

namespace ClassMember

mutual

/-- Classes have members, ranges have single characters at their ends, and the names of sets are
known. -/
def Proper (source : Text) : ClassMember → Prop
  | atom a => a.Proper source
  | range low high =>
    (low.Proper source ∧ low.singleCharacter?.isSome) ∧
      (high.Proper source ∧ high.singleCharacter?.isSome)
  | nested _ members => members ≠ [] ∧ ProperAll source members
  | posix name _ => ∃ known ∈ OpenBracket.posixNames, name = known.toList
  | quote _ => True

/-- Every member of a list is proper. -/
def ProperAll (source : Text) : List ClassMember → Prop
  | [] => True
  | m :: ms => Proper source m ∧ ProperAll source ms

end

/-- A list of members is proper if all of them are. -/
theorem properAll_iff {ms : List ClassMember} :
    ProperAll source ms ↔ ∀ m ∈ ms, m.Proper source := by
  induction ms with
  | nil => simp [ProperAll]
  | cons m ms ih => rw [ProperAll, ih, List.forall_mem_cons]

end ClassMember

/-! ## Trees -/

namespace Pattern

/-- Whether the tree is a list of branches. -/
def isAlternation : Pattern → Bool
  | alternation _ => true
  | _ => false

/-- Whether the tree is a list of parts, maybe without any, and nothing around them. -/
def isLoose : Pattern → Bool
  | alternation _ | concatenation _ | empty => true
  | _ => false

/-- Whether the tree is a scope of options, which has no end of its own. -/
def isScope : Pattern → Bool
  | group kind _ => kind.isImplicit
  | _ => false

mutual

/-- The shape of the trees that are read from a source, at every place. -/
def Shaped (source : Text) : Pattern → Prop
  | alternation branches =>
    2 ≤ branches.length ∧ (∀ p ∈ branches, p.isAlternation = false) ∧ ShapedAll source branches
  | concatenation items =>
    2 ≤ items.length ∧ (∀ p ∈ items, p.isLoose = false) ∧
      -- nothing comes after a scope
      (∀ p ∈ items.dropLast, p.isScope = false) ∧ ShapedAll source items
  | group kind body => kind.Proper ∧ Shaped source body
  | repetition _ _ body => body.isLoose = false ∧ body.isScope = false ∧ Shaped source body
  | atom a => a.Proper source
  | custom _ members => members ≠ [] ∧ ClassMember.ProperAll source members
  | quote _ | trivia _ | empty => True
  -- these come from other passes
  | leveled _ _ | transformed _ _ _ => False

/-- Every tree of a list has this shape. -/
def ShapedAll (source : Text) : List Pattern → Prop
  | [] => True
  | p :: ps => Shaped source p ∧ ShapedAll source ps

end

/-- A list of trees has this shape if all of them do. -/
theorem shapedAll_iff {ps : List Pattern} :
    ShapedAll source ps ↔ ∀ p ∈ ps, p.Shaped source := by
  induction ps with
  | nil => simp [ShapedAll]
  | cons p ps ih => rw [ShapedAll, ih, List.forall_mem_cons]

/-- A tree that can be repeated, and that anything may follow in a sequence. -/
structure Operand (source : Text) (p : Pattern) : Prop where
  shaped : p.Shaped source
  tight : p.isLoose = false
  closed : p.isScope = false

/-- A repetition can be repeated, and anything may follow it. -/
theorem Operand.repetition {p : Pattern} (h : p.Operand source) (amount : Amount) (greed : Greed) :
    (Pattern.repetition amount greed p).Operand source :=
  ⟨⟨h.tight, h.closed, h.shaped⟩, rfl, rfl⟩

/-- The items of a sequence. -/
structure Items (source : Text) (items : List Pattern) : Prop where
  shaped : ∀ p ∈ items, p.Shaped source
  tight : ∀ p ∈ items, p.isLoose = false
  closed : ∀ p ∈ items.dropLast, p.isScope = false

namespace Items

variable {items : List Pattern}

/-- A sequence may have no items. -/
theorem nil : Items source [] :=
  ⟨nofun, nofun, nofun⟩

/-- An operand may stand in front of any items: if there are some, it is not the last one, but it is
no scope. -/
theorem cons {p : Pattern} (first : p.Operand source) (h : Items source items) :
    Items source (p :: items) where
  shaped := List.forall_mem_cons.2 ⟨first.shaped, h.shaped⟩
  tight := List.forall_mem_cons.2 ⟨first.tight, h.tight⟩
  closed := by
    cases items with
    | nil => exact nofun
    | cons q items => exact List.forall_mem_cons.2 ⟨first.closed, h.closed⟩

/-- The tree of some items has the shape of trees that are read. -/
theorem shaped_ofItems (h : Items source items) : (ofItems items).Shaped source := by
  cases items with
  | nil => exact trivial
  | cons p items =>
    cases items with
    | nil => exact h.shaped p List.mem_cons_self
    | cons q items =>
      exact ⟨Nat.le_add_left _ _, h.tight, h.closed, shapedAll_iff.2 h.shaped⟩

/-- Items make a sequence, no list of branches. -/
theorem isAlternation_ofItems (h : Items source items) : (ofItems items).isAlternation = false := by
  cases items with
  | nil => rfl
  | cons p items =>
    cases items with
    | nil =>
      have tight := h.tight p List.mem_cons_self
      cases p with
      | alternation branches => cases tight
      | _ => rfl
    | cons q items => rfl

/-- A scope of options takes in all items behind it, so it is the only one that is left. -/
theorem scope {change : OptionSequence} (proper : change.Proper) (h : Items source items) :
    Items source [.group (.options change true) (ofItems items)] where
  shaped := List.forall_mem_singleton.2 ⟨proper, h.shaped_ofItems⟩
  tight := List.forall_mem_singleton.2 rfl
  closed := nofun

end Items

end Pattern

/-! ## What is being read -/

/-- A piece is an operand or a change of options. -/
def Piece.Proper (source : Text) : Piece → Prop
  | node p _ => p.Operand source
  | scope change => change.Proper

/-- Pieces are put together from the last one on, and what is there so far are items at any time. -/
theorem Piece.items_assemble {pieces : List Piece} {later : List Pattern}
    (h : ∀ piece ∈ pieces, piece.Proper source) (h' : Pattern.Items source later) :
    Pattern.Items source (assemble pieces later) := by
  induction pieces generalizing later with
  | nil => exact h'
  | cons piece pieces ih =>
    obtain ⟨here, front⟩ := List.forall_mem_cons.1 h
    cases piece with
    | node p quantifiable => exact ih front (h'.cons here)
    | scope change => exact ih front (h'.scope here)

namespace GroupBody

/-- What has been read between two parentheses has the parts of a tree of the right shape. -/
structure Shaped (source : Text) (b : GroupBody) : Prop where
  branches : ∀ p ∈ b.branches, p.isAlternation = false ∧ p.Shaped source
  pieces : ∀ piece ∈ b.pieces, piece.Proper source

variable {b : GroupBody}

theorem Shaped.start : Shaped source .start :=
  ⟨nofun, nofun⟩

/-- A proper piece may be put behind the others. -/
theorem Shaped.push {piece : Piece} (h : b.Shaped source) (proper : piece.Proper source) :
    (b.push piece).Shaped source :=
  ⟨h.branches, List.forall_mem_cons.2 ⟨proper, h.pieces⟩⟩

/-- The pieces become a branch, which is no list of branches again. -/
theorem Shaped.branch (h : b.Shaped source) :
    b.branch.isAlternation = false ∧ b.branch.Shaped source := by
  have items := Piece.items_assemble h.pieces .nil
  exact ⟨items.isAlternation_ofItems, items.shaped_ofItems⟩

theorem Shaped.nextBranch (h : b.Shaped source) : b.nextBranch.Shaped source :=
  ⟨List.forall_mem_cons.2 ⟨h.branch, h.branches⟩, nofun⟩

/-- With two branches or more the body is a list of them, otherwise it is its only branch. -/
theorem Shaped.toPattern (h : b.Shaped source) : b.toPattern.Shaped source := by
  have all : ∀ p ∈ b.branch :: b.branches, p.isAlternation = false ∧ p.Shaped source :=
    List.forall_mem_cons.2 ⟨h.branch, h.branches⟩
  rw [GroupBody.toPattern]
  split
  · exact h.branch.2
  case h_2 several =>
    have two : 2 ≤ (b.branch :: b.branches).reverse.length := by
      rw [List.length_reverse, List.length_cons]
      have filled : 0 < b.branches.length := List.length_pos_iff.2 several
      omega
    refine ⟨two, fun p mem => (all p (List.mem_reverse.1 mem)).1, ?_⟩
    exact Pattern.shapedAll_iff.2 fun p mem => (all p (List.mem_reverse.1 mem)).2

end GroupBody

end GraphemeRegex
