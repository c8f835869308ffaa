import GraphemeRegex.Proofs.Pattern.Nodes
import Mathlib.Data.List.Forall2

/-! # Tagging — the last level wins

Whether a tree can be leveled does not depend on the level. The result has the shape of the tree and
one level at all of its classes, so that leveling it again is the same as leveling the tree.

* `Pattern.class?`, `Pattern.SameButLevels`: the leaves that leveling changes, and trees that differ
  at such leaves only.
* `Pattern.withLevel_relevel`, `Pattern.eq_leveled_of_mem_relevel`, `Pattern.sameButLevels_relevel`:
  what is known of a leveled tree.
* `Pattern.withLevel_last_wins`: all of this for leveling that may fail.
-/

namespace GraphemeRegex

namespace Pattern

/-! ## Classes and the trees around them -/

/-- The built-in class that a leaf stands for, whether it has a level or not. -/
def class? : Pattern → Option CharClass
  | atom (.cls cls) => some cls
  | leveled cls _ => some cls
  | _ => none

/-- Two trees are the same everywhere but for the levels of their classes. -/
inductive SameButLevels : Pattern → Pattern → Prop where
  | same (t : Pattern) : SameButLevels t t
  | classes {t t' : Pattern} {cls : CharClass} (here : t.class? = some cls)
    (there : t'.class? = some cls) : SameButLevels t t'
  | alternation {ts ts' : List Pattern} (branches : List.Forall₂ SameButLevels ts ts') :
    SameButLevels (.alternation ts) (.alternation ts')
  | concatenation {ts ts' : List Pattern} (items : List.Forall₂ SameButLevels ts ts') :
    SameButLevels (.concatenation ts) (.concatenation ts')
  | group (kind : GroupKind) {t t' : Pattern} (body : SameButLevels t t') :
    SameButLevels (.group kind t) (.group kind t')
  | transformed (transform : Transform) (kind : GroupKind) {t t' : Pattern}
    (body : SameButLevels t t') :
    SameButLevels (.transformed transform kind t) (.transformed transform kind t')
  | repetition (amount : Amount) (greed : Greed) {t t' : Pattern} (body : SameButLevels t t') :
    SameButLevels (.repetition amount greed t) (.repetition amount greed t')

/-! ## Leveled trees -/

variable (level : MatchLevel)

mutual

/-- A second level takes the place of the first. -/
theorem withLevel_relevel (first : MatchLevel) :
    ∀ t : Pattern, (t.relevel first).withLevel level = t.withLevel level
  | alternation branches => by
    rw [relevel, withLevel, withLevel, withLevelAll_relevelAll first branches]
  | concatenation items => by
    rw [relevel, withLevel, withLevel, withLevelAll_relevelAll first items]
  | group _ body => by rw [relevel, withLevel, withLevel, withLevel_relevel first body]
  | transformed _ _ body => by rw [relevel, withLevel, withLevel, withLevel_relevel first body]
  | repetition _ _ body => by rw [relevel, withLevel, withLevel, withLevel_relevel first body]
  | atom a => by cases a <;> rfl
  | leveled _ _ | quote _ | trivia _ | custom _ _ | empty => rfl

/-- The same for the trees of a list. -/
theorem withLevelAll_relevelAll (first : MatchLevel) :
    ∀ ts : List Pattern, withLevelAll level (relevelAll first ts) = withLevelAll level ts
  | [] => rfl
  | t :: ts => by
    rw [relevelAll, withLevelAll, withLevelAll, withLevel_relevel first t,
      withLevelAll_relevelAll first ts]

end

mutual

/-- All classes of a leveled tree have the level. -/
theorem eq_leveled_of_mem_relevel {cls : CharClass} : ∀ (t : Pattern),
    ∀ x ∈ (t.relevel level).nodes, x.class? = some cls → x = leveled cls (some level)
  | alternation branches, x, mem, found => by
    rcases List.mem_cons.1 mem with rfl | mem
    · cases found
    · exact eq_leveled_of_mem_relevelAll branches x mem found
  | concatenation items, x, mem, found => by
    rcases List.mem_cons.1 mem with rfl | mem
    · cases found
    · exact eq_leveled_of_mem_relevelAll items x mem found
  | group _ body, x, mem, found | transformed _ _ body, x, mem, found
  | repetition _ _ body, x, mem, found => by
    rcases List.mem_cons.1 mem with rfl | mem
    · cases found
    · exact eq_leveled_of_mem_relevel body x mem found
  | leveled _ _, x, mem, found => by
    obtain rfl := List.mem_singleton.1 mem
    cases found
    rfl
  | atom a, x, mem, found => by
    cases a with
    | cls _ =>
      obtain rfl := List.mem_singleton.1 mem
      cases found
      rfl
    | _ =>
      obtain rfl := List.mem_singleton.1 mem
      cases found
  | quote _, x, mem, found | trivia _, x, mem, found | custom _ _, x, mem, found
  | empty, x, mem, found => by
    obtain rfl := List.mem_singleton.1 mem
    cases found

theorem eq_leveled_of_mem_relevelAll {cls : CharClass} : ∀ (ts : List Pattern),
    ∀ x ∈ nodesAll (relevelAll level ts), x.class? = some cls → x = leveled cls (some level)
  | [], _, mem, _ => nomatch mem
  | t :: ts, x, mem, found => by
    rcases List.mem_append.1 mem with mem | mem
    · exact eq_leveled_of_mem_relevel t x mem found
    · exact eq_leveled_of_mem_relevelAll ts x mem found

end

mutual

/-- A leveled tree differs from the tree at its classes only. -/
theorem sameButLevels_relevel : ∀ t : Pattern, SameButLevels t (t.relevel level)
  | .alternation branches => .alternation (sameButLevels_relevelAll branches)
  | .concatenation items => .concatenation (sameButLevels_relevelAll items)
  | .group kind body => .group kind (sameButLevels_relevel body)
  | .transformed transform kind body => .transformed transform kind (sameButLevels_relevel body)
  | .repetition amount greed body => .repetition amount greed (sameButLevels_relevel body)
  | leveled _ _ => .classes rfl rfl
  | atom a => by
    cases a with
    | cls _ => exact .classes rfl rfl
    | _ => exact .same _
  | quote _ | trivia _ | custom _ _ | empty => .same _

theorem sameButLevels_relevelAll :
    ∀ ts : List Pattern, List.Forall₂ SameButLevels ts (relevelAll level ts)
  | [] => .nil
  | t :: ts => .cons (sameButLevels_relevel t) (sameButLevels_relevelAll ts)

end

/-! ## Leveling -/

/-- At each level, leveling succeeds exactly if there is no bracketed class in the tree, and
otherwise names the leftmost one. Leveling the result again is leveling the tree at the last level;
all classes of the result have its level, and nothing else is different. -/
theorem withLevel_last_wins (t : Pattern) (first last : MatchLevel) :
    ((∃ tree, t.withLevel first = .ok tree) ↔ ∃ tree, t.withLevel last = .ok tree) ∧
    ((∃ tree, t.withLevel first = .ok tree) ↔ ∀ x ∈ t.nodes, x.isCustom = false) ∧
    (∀ e, t.withLevel first = .error e ↔ ∃ x, t.nodes.find? isCustom = some x ∧ e = ⟨x.tag⟩) ∧
    (∀ e, t.withLevel first = .error e ↔ t.withLevel last = .error e) ∧
    ∀ tree, t.withLevel first = .ok tree →
      tree.withLevel last = t.withLevel last ∧
      (∀ x ∈ tree.nodes, ∀ cls, x.class? = some cls → x = leveled cls (some first)) ∧
      SameButLevels t tree := by
  have plain : (∀ x ∈ t.nodes, x.isCustom = false) ↔ t.nodes.find? isCustom = none := by
    simp only [List.find?_eq_none, Bool.not_eq_true]
  rw [plain, withLevel_eq first t, withLevel_eq last t]
  cases custom : t.nodes.find? isCustom with
  | some x =>
    -- leveling names this class at either level
    refine ⟨⟨nofun, nofun⟩, ⟨nofun, nofun⟩, fun e => ⟨?_, ?_⟩, fun e => Iff.rfl, nofun⟩
    · rintro ⟨⟩
      exact ⟨x, rfl, rfl⟩
    · rintro ⟨_, ⟨⟩, rfl⟩
      rfl
  | none =>
    refine ⟨⟨fun _ => ⟨_, rfl⟩, fun _ => ⟨_, rfl⟩⟩, ⟨fun _ => rfl, fun _ => ⟨_, rfl⟩⟩,
      fun e => ⟨nofun, nofun⟩, fun e => ⟨nofun, nofun⟩, ?_⟩
    rintro tree ⟨⟩
    -- leveling succeeds at both, and at the last level it replaces what it did at the first
    have again := withLevel_relevel last first t
    rw [withLevel_eq last t, custom] at again
    exact ⟨again, fun x mem cls => eq_leveled_of_mem_relevel first t x mem,
      sameButLevels_relevel first t⟩

/-- A digit that was leveled before and, in a loop, a word character that was not: both end up at
the last level. -/
theorem withLevel_of_leveled_before :
    let t : Pattern := .concatenation [.leveled ⟨.digit, false⟩ (some .grapheme),
      .repetition .oneOrMore .possessive (.group .atomic (.atom (.cls ⟨.word, true⟩)))]
    ∃ tree, t.withLevel .scalar = .ok tree ∧ tree.withLevel .grapheme =
      .ok (.concatenation [.leveled ⟨.digit, false⟩ (some .grapheme),
        .repetition .oneOrMore .possessive
          (.group .atomic (.leveled ⟨.word, true⟩ (some .grapheme)))]) := by
  intro t
  obtain ⟨tree, leveled⟩ : ∃ tree, t.withLevel .scalar = .ok tree := ⟨_, rfl⟩
  obtain ⟨_, _, _, _, later⟩ := withLevel_last_wins t .scalar .grapheme
  exact ⟨tree, leveled, (later tree leveled).1⟩

/-- The leftmost bracketed class is named, whatever the level. -/
example (level : MatchLevel) : (concatenation [.repetition .zeroOrMore .eager (.custom true []),
    .custom false []]).withLevel level = .error ⟨"customCharacterClass(inverted)"⟩ := rfl

end Pattern

end GraphemeRegex
