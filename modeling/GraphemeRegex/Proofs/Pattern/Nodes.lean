import GraphemeRegex.Proofs.Pattern.Releveling

/-! # Nodes — the parts of a pattern in reading order

The nodes of a pattern are listed from left to right, each before its parts. Those in a loop that
leaves nothing to repeat are there, but they are not alive.

* `Pattern.nodes`, `Pattern.liveNodes`: all nodes, and those that are alive.
* `Pattern.withLevel_eq`: leveling stops at the first bracketed class.
-/

namespace GraphemeRegex

namespace Pattern

mutual

/-- The nodes of a pattern from left to right, each before its parts. -/
def nodes : Pattern → List Pattern
  | alternation branches => alternation branches :: nodesAll branches
  | concatenation items => concatenation items :: nodesAll items
  | group kind body => group kind body :: nodes body
  | transformed transform kind body => transformed transform kind body :: nodes body
  | repetition amount greed body => repetition amount greed body :: nodes body
  | leaf => [leaf]

/-- The nodes of the patterns of a list. -/
def nodesAll : List Pattern → List Pattern
  | [] => []
  | t :: ts => nodes t ++ nodesAll ts

end

mutual

/-- The nodes of a pattern but for those in loops that leave nothing to repeat. -/
def liveNodes : Pattern → List Pattern
  | alternation branches => alternation branches :: liveNodesAll branches
  | concatenation items => concatenation items :: liveNodesAll items
  | group kind body => group kind body :: liveNodes body
  | transformed transform kind body => transformed transform kind body :: liveNodes body
  | repetition amount greed body =>
    repetition amount greed body :: if amount.isDegenerate then [] else liveNodes body
  | leaf => [leaf]

/-- The live nodes of the patterns of a list. -/
def liveNodesAll : List Pattern → List Pattern
  | [] => []
  | t :: ts => liveNodes t ++ liveNodesAll ts

end

/-- Whether the node is a bracketed class. -/
def isCustom : Pattern → Bool
  | custom _ _ => true
  | _ => false

/-! ## Leveling -/

mutual

/-- Leveling stops at the first bracketed class, or makes the releveled tree. -/
theorem withLevel_eq (level : MatchLevel) : ∀ t : Pattern, t.withLevel level =
    match t.nodes.find? isCustom with
    | some x => .error ⟨x.tag⟩
    | none => .ok (t.relevel level)
  | alternation branches => by
    rw [withLevel, withLevelAll_eq level branches, nodes, List.find?_cons]
    cases (nodesAll branches).find? isCustom <;> rfl
  | concatenation items => by
    rw [withLevel, withLevelAll_eq level items, nodes, List.find?_cons]
    cases (nodesAll items).find? isCustom <;> rfl
  | group _ body => by
    rw [withLevel, withLevel_eq level body, nodes, List.find?_cons]
    cases body.nodes.find? isCustom <;> rfl
  | transformed _ _ body => by
    rw [withLevel, withLevel_eq level body, nodes, List.find?_cons]
    cases body.nodes.find? isCustom <;> rfl
  | repetition _ _ body => by
    rw [withLevel, withLevel_eq level body, nodes, List.find?_cons]
    cases body.nodes.find? isCustom <;> rfl
  | atom a => by cases a <;> rfl
  | leveled _ _ | quote _ | trivia _ | custom _ _ | empty => rfl

/-- The same for the trees of a list, of which the first that stops decides. -/
theorem withLevelAll_eq (level : MatchLevel) : ∀ ts : List Pattern, withLevelAll level ts =
    match (nodesAll ts).find? isCustom with
    | some x => .error ⟨x.tag⟩
    | none => .ok (relevelAll level ts)
  | [] => rfl
  | t :: ts => by
    rw [withLevelAll, withLevel_eq level t, withLevelAll_eq level ts, nodesAll, List.find?_append]
    cases t.nodes.find? isCustom <;> cases (nodesAll ts).find? isCustom <;> rfl

end

end Pattern

end GraphemeRegex
