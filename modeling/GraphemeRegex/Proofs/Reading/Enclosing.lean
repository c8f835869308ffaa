import GraphemeRegex.Proofs.Reading.Roundtrip
import Mathlib.Control.Monad.Basic

/-! # Enclosing — what each node of a tree lies under

The limit counts the groups and bracketed classes that are open at a time. A scope of options is a
group of the tree, but no parenthesis is open while what it holds is read, and it is not counted.

* `Pattern.enclosures`: for each node, the groups and bracketed classes that it lies under.
* `Pattern.delimited_le`: no node lies under more groups and classes that are counted than the depth
  of the tree.
* `Pattern.scopes`, `Pattern.parse_spell_scopes`: scopes of options in each other, and the text that
  they are read from.
* `Pattern.nesting_bounded_but_for_scopes`: what the limit bounds, and what it does not.
-/

namespace GraphemeRegex

/-! ## Groups and classes around a node -/

/-- What a node may lie under. -/
inductive Enclosure where
  | group (kind : GroupKind)
  | bracket (inverted : Bool)
  deriving DecidableEq, Repr

namespace Enclosure

/-- Whether it is a scope of options, which ends with the sequence that it begins in. -/
def isScope : Enclosure → Bool
  | group kind => kind.isImplicit
  | bracket _ => false

/-- How many of them have parentheses or brackets of their own. -/
def delimited (around : List Enclosure) : Nat :=
  around.countP fun e => !e.isScope

/-- What a node lies under are scopes and the rest. -/
theorem length_eq (around : List Enclosure) :
    around.length = delimited around + around.countP isScope := by
  rw [List.length_eq_countP_add_countP isScope, Nat.add_comm, delimited]
  congr 2
  funext e
  cases e.isScope <;> rfl

/-- A group counts if it has parentheses. -/
theorem delimited_group_cons (kind : GroupKind) (around : List Enclosure) :
    delimited (group kind :: around) =
      if kind.isImplicit then delimited around else delimited around + 1 := by
  cases implicit : kind.isImplicit <;> simp [delimited, isScope, implicit]

/-- A bracketed class always counts. -/
theorem delimited_bracket_cons (inverted : Bool) (around : List Enclosure) :
    delimited (bracket inverted :: around) = delimited around + 1 :=
  List.countP_cons_of_pos rfl

end Enclosure

open Enclosure

namespace ClassMember

mutual

/-- What each member lies under, the innermost first, in a place that lies under `around`. -/
def enclosuresIn (around : List Enclosure) : ClassMember → List (List Enclosure)
  | nested inverted members => around :: enclosuresInAll (.bracket inverted :: around) members
  | atom _ | range _ _ | posix _ _ | quote _ => [around]

/-- What the members of a list and all members in them lie under. -/
def enclosuresInAll (around : List Enclosure) : List ClassMember → List (List Enclosure)
  | [] => []
  | m :: ms => enclosuresIn around m ++ enclosuresInAll around ms

end

mutual

theorem delimited_le : ∀ {m : ClassMember} {around path : List Enclosure},
    path ∈ m.enclosuresIn around → delimited path ≤ delimited around + m.depth
  | nested inverted members, around, path, mem => by
    rcases List.mem_cons.1 mem with rfl | mem
    · exact Nat.le_add_right _ _
    · -- one more bracket around the members, one more in the depth
      have inner := delimited_le_all mem
      rw [delimited_bracket_cons] at inner
      rw [depth]
      omega
  | atom _, _, _, mem | range _ _, _, _, mem | posix _ _, _, _, mem | quote _, _, _, mem => by
    rw [List.mem_singleton.1 mem]
    exact Nat.le_add_right _ _

theorem delimited_le_all : ∀ {ms : List ClassMember} {around path : List Enclosure},
    path ∈ enclosuresInAll around ms → delimited path ≤ delimited around + depthAll ms
  | m :: ms, around, path, mem => by
    rw [depthAll]
    rcases List.mem_append.1 mem with mem | mem
    · have first := delimited_le mem
      omega
    · have others := delimited_le_all mem
      omega

end

end ClassMember

namespace Pattern

mutual

/-- What each node lies under, the innermost first, in a place that lies under `around`. -/
def enclosuresIn (around : List Enclosure) : Pattern → List (List Enclosure)
  | alternation branches => around :: enclosuresInAll around branches
  | concatenation items => around :: enclosuresInAll around items
  | group kind body | transformed _ kind body =>
    around :: enclosuresIn (.group kind :: around) body
  | repetition _ _ body => around :: enclosuresIn around body
  | custom inverted members =>
    around :: ClassMember.enclosuresInAll (.bracket inverted :: around) members
  | quote _ | trivia _ | atom _ | leveled _ _ | empty => [around]

/-- What the trees of a list and all nodes in them lie under. -/
def enclosuresInAll (around : List Enclosure) : List Pattern → List (List Enclosure)
  | [] => []
  | t :: ts => enclosuresIn around t ++ enclosuresInAll around ts

end

/-- The groups and bracketed classes that each node, and each member of a class, lies under. -/
def enclosures (t : Pattern) : List (List Enclosure) :=
  t.enclosuresIn []

/-! ## The bound -/

/-- A group that counts is one deeper than its body; a scope is neither. -/
theorem delimited_group_le {kind : GroupKind} {body : Pattern} {around : List Enclosure} {n : Nat}
    (h : n ≤ delimited (.group kind :: around) + body.depth) :
    n ≤ delimited around + (group kind body).depth := by
  rw [delimited_group_cons] at h
  rw [depth]
  by_cases implicit : kind.isImplicit = true
  · rw [if_pos implicit] at h ⊢
    exact h
  · rw [if_neg implicit] at h ⊢
    omega

mutual

/-- The depth of a tree counts all that a node lies under but for scopes. -/
theorem delimited_le : ∀ {t : Pattern} {around path : List Enclosure},
    path ∈ t.enclosuresIn around → delimited path ≤ delimited around + t.depth
  | alternation _, _, _, mem | concatenation _, _, _, mem => by
    -- the node itself is no deeper than its place; the others are in its parts
    rcases List.mem_cons.1 mem with rfl | mem
    · exact Nat.le_add_right _ _
    · exact delimited_le_all mem
  | group _ body, _, _, mem | transformed _ _ body, _, _, mem => by
    rcases List.mem_cons.1 mem with rfl | mem
    · exact Nat.le_add_right _ _
    · exact delimited_group_le (delimited_le (t := body) mem)
  | repetition _ _ body, _, _, mem => by
    rcases List.mem_cons.1 mem with rfl | mem
    · exact Nat.le_add_right _ _
    · exact delimited_le (t := body) mem
  | custom inverted members, _, _, mem => by
    rcases List.mem_cons.1 mem with rfl | mem
    · exact Nat.le_add_right _ _
    · have inner := ClassMember.delimited_le_all mem
      rw [delimited_bracket_cons] at inner
      rw [depth]
      omega
  | quote _, _, _, mem | trivia _, _, _, mem | atom _, _, _, mem | leveled _ _, _, _, mem
  | empty, _, _, mem => by
    rw [List.mem_singleton.1 mem]
    exact Nat.le_add_right _ _

theorem delimited_le_all : ∀ {ts : List Pattern} {around path : List Enclosure},
    path ∈ enclosuresInAll around ts → delimited path ≤ delimited around + depthAll ts
  | t :: ts, around, path, mem => by
    rw [depthAll]
    rcases List.mem_append.1 mem with mem | mem
    · have first := delimited_le mem
      omega
    · have others := delimited_le_all mem
      omega

end

/-! ## Scopes -/

/-- The change of options that ignores case. -/
def ignoreCase : OptionSequence :=
  ⟨false, [.caseInsensitive], []⟩

/-- As many scopes of options as said, each in the one before it. -/
def scopes : Nat → List Pattern
  | 0 => []
  | n + 1 => [.group (.options ignoreCase true) (.ofItems (scopes n))]

/-- Scopes in each other can be spelled. -/
theorem isRow_scopes : ∀ n, IsRow (scopes n)
  | 0 => .nil
  | n + 1 => .scope (by decide) (isRow_scopes n)

/-- Scopes in each other have no depth. -/
theorem depthAll_scopes : ∀ n, depthAll (scopes n) = 0
  | 0 => rfl
  | n + 1 => by simp [scopes, depthAll, depth, GroupKind.isImplicit, depthAll_scopes n]

/-- The innermost node lies under all of the scopes. -/
theorem mem_enclosuresIn_scopes : ∀ (n : Nat) (around : List Enclosure),
    List.replicate n (.group (.options ignoreCase true)) ++ around ∈
      enclosuresIn around (ofItems (scopes n))
  | 0, around => List.mem_singleton.2 rfl
  | n + 1, around => by
    have inner := mem_enclosuresIn_scopes n (.group (.options ignoreCase true) :: around)
    rw [List.replicate_succ', List.append_assoc, List.singleton_append]
    exact List.mem_cons_of_mem _ inner

/-- What reading leads to at the end of a text is its tree. -/
theorem parse_of_leads {limit : Nat} {text : Text} {b : GroupBody} (printable : text.Printable)
    (read : Reading.Leads limit ⟨.start, []⟩ text ⟨b, []⟩ []) :
    parse text .traditional limit = .ok b.toPattern := by
  have units : (Input.plain 0 text).rest.length = text.length := List.length_map _
  obtain ⟨o, fuel, _, same⟩ := read 0 text.length (Nat.le_refl _)
  rw [parse, Input.ofText_eq_plain printable, units, same]
  -- no unit is left
  cases fuel <;> rfl

/-- Scopes are read at any limit, however many they are. -/
theorem parse_spell_scopes (limit n : Nat) :
    parse (ofItems (scopes n)).spell .traditional limit = .ok (ofItems (scopes n)) := by
  have canonical := IsCanonical.sequence (isRow_scopes n)
  have room : ([] : List OpenGroup).length + (ofItems (scopes n)).depth ≤ limit := by
    rw [depth_ofItems, depthAll_scopes]
    exact Nat.zero_le _
  have calm : Reading.Calm [] := fun d head => by cases head
  obtain ⟨b, made, read⟩ := canonical.leads room calm
  rw [List.append_nil] at read
  have parsed := parse_of_leads canonical.printable read
  rwa [made] at parsed

/-! ## The limit -/

/-- In a tree that is read, each node lies under at most as many groups and bracketed classes as the
limit says, not counting scopes of options. Of scopes alone, a node may lie under any number, at any
limit. -/
theorem nesting_bounded_but_for_scopes (limit : Nat) :
    (∀ (source : Text) (dialect : Dialect) (t : Pattern), parse source dialect limit = .ok t →
      ∀ around ∈ t.enclosures, around.length ≤ limit + around.countP Enclosure.isScope) ∧
    ∀ n, ∃ source t, parse source .traditional limit = .ok t ∧
      ∃ around ∈ t.enclosures, around.length = n ∧ ∀ e ∈ around, e.isScope = true := by
  constructor
  · intro source dialect t parsed around mem
    have shallow := depth_le_of_parse parsed
    have counted : delimited around ≤ delimited [] + t.depth := delimited_le mem
    have outside : delimited [] = 0 := rfl
    rw [length_eq]
    omega
  · intro n
    -- scopes are read at any limit, and the innermost node lies under all of them
    have innermost := mem_enclosuresIn_scopes n []
    rw [List.append_nil] at innermost
    refine ⟨_, _, parse_spell_scopes limit n, _, innermost, List.length_replicate, ?_⟩
    intro e mem
    rw [List.eq_of_mem_replicate mem]
    rfl

/-- A class in a class, in a scope, in a group that captures. -/
theorem nesting_of_class_in_scope :
    ∃ t, parse "a((?i)b[c[d]])*".toList .traditional 3 = .ok t ∧
      (∃ around ∈ t.enclosures, around.length = 4) ∧
      ∀ around ∈ t.enclosures, around.length ≤ 3 + around.countP Enclosure.isScope := by
  obtain ⟨t, parsed, deep⟩ : ∃ t, parse "a((?i)b[c[d]])*".toList .traditional 3 = .ok t ∧
      ∃ around ∈ t.enclosures, around.length = 4 := by
    refine ⟨.concatenation [.atom (.char ['a']), .repetition .zeroOrMore .eager
      (.group .capture (.group (.options ignoreCase true) (.concatenation [.atom (.char ['b']),
        .custom false [.atom (.char ['c']), .nested false [.atom (.char ['d'])]]])))],
      by decide +kernel, by decide⟩
  exact ⟨t, parsed, deep, (nesting_bounded_but_for_scopes 3).1 _ _ t parsed⟩

/-- A node may lie under two groups where the limit is one, if one of them is a scope of options;
with a colon in the place of the parenthesis that ends the options, the same two are refused. -/
theorem scope_in_group_not_refused :
    (∃ t, parse "((?i)a)".toList .traditional 1 = .ok t ∧
      ∃ around ∈ t.enclosures, 1 < around.length) ∧
    parse "((?i:a))".toList .traditional 1 = .error ⟨.nestedTooDeep 1, 1, 5⟩ := by
  refine ⟨⟨.group .capture (.group (.options ignoreCase true) (.atom (.char ['a']))), ?_, ?_⟩, ?_⟩
  · decide +kernel
  · decide
  · decide +kernel

end Pattern

end GraphemeRegex
