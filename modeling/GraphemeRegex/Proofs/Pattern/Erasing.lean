import GraphemeRegex.Lowering.Emptiness
import GraphemeRegex.Pattern.Leveling

/-! # Erasing — the tree without groups and items that leave no trace

Captures, names, options and comments say something about a pattern without changing what it
matches. Erasing drops them and flattens the sequences that remain.

* `Pattern.erase`: the tree without them.
* `Pattern.isBare`: what is left has no such groups and items.
* `Pattern.mayBeEmpty_erase`, `Pattern.withLevel_erase`: erasing changes neither which patterns may
  be empty nor where leveling stops.
-/

namespace GraphemeRegex

/-- Whether a group matches just what its body matches. -/
def GroupKind.isTransparent : GroupKind → Bool
  | capture | named _ | nonCapture | branchReset | options _ _ => true
  | _ => false

/-- A group that matches what its body matches does not look around. -/
theorem GroupKind.looksAround_of_isTransparent {kind : GroupKind}
    (transparent : kind.isTransparent = true) : kind.looksAround = false := by
  cases kind <;> first | rfl | cases transparent

namespace Pattern

/-! ## Trees -/

/-- The items that a pattern contributes to a sequence in which it stands. -/
def spliced : Pattern → List Pattern
  | concatenation items => items
  | empty => []
  | t => [t]

mutual

/-- The tree without transparent groups and trivia, with its sequences flattened. -/
def erase : Pattern → Pattern
  | alternation branches => alternation (eraseAll branches)
  | concatenation items => ofItems (eraseItems items)
  | group kind body => if kind.isTransparent then erase body else group kind (erase body)
  | transformed transform kind body =>
    if kind.isTransparent then erase body else transformed transform kind (erase body)
  | repetition amount greed body => repetition amount greed (erase body)
  | quote text => quote text
  | trivia _ => empty
  | atom a => atom a
  | leveled cls level => leveled cls level
  | custom inverted members => custom inverted members
  | empty => empty

/-- Each tree of a list, erased. -/
def eraseAll : List Pattern → List Pattern
  | [] => []
  | t :: ts => erase t :: eraseAll ts

/-- The items of a sequence, erased and flattened. -/
def eraseItems : List Pattern → List Pattern
  | [] => []
  | t :: ts => (erase t).spliced ++ eraseItems ts

end

/-! ## What is left -/

/-- Whether a pattern is an item that a flat sequence can have. -/
def isItem : Pattern → Bool
  | concatenation _ | empty => false
  | _ => true

mutual

/-- Whether the tree has no transparent groups, no trivia and no sequence that is not flat. -/
def isBare : Pattern → Bool
  | alternation branches => allBare branches
  | concatenation items => 2 ≤ items.length && items.all isItem && allBare items
  | group kind body | transformed _ kind body => !kind.isTransparent && isBare body
  | repetition _ _ body => isBare body
  | trivia _ => false
  | quote _ | atom _ | leveled _ _ | custom _ _ | empty => true

/-- Whether all trees of a list are bare. -/
def allBare : List Pattern → Bool
  | [] => true
  | t :: ts => isBare t && allBare ts

end

/-- Sequences one behind the other. -/
theorem allBare_append (ts us : List Pattern) :
    allBare (ts ++ us) = (allBare ts && allBare us) := by
  induction ts with
  | nil => rfl
  | cons t ts ih => rw [List.cons_append, allBare, allBare, ih, Bool.and_assoc]

/-- What a bare tree contributes to a sequence are bare items. -/
theorem bare_spliced {t : Pattern} (bare : t.isBare = true) :
    t.spliced.all isItem = true ∧ allBare t.spliced = true := by
  have single (t : Pattern) : allBare [t] = t.isBare := Bool.and_true _
  cases t with
  | concatenation items =>
    rw [isBare, Bool.and_eq_true, Bool.and_eq_true] at bare
    exact ⟨bare.1.2, bare.2⟩
  | empty => exact ⟨rfl, rfl⟩
  | _ => exact ⟨rfl, (single _).trans bare⟩

/-- Bare items make a bare sequence. -/
theorem isBare_ofItems {items : List Pattern} (flat : items.all isItem = true)
    (bare : allBare items = true) : (ofItems items).isBare = true := by
  match items with
  | [] => rfl
  | [t] =>
    rw [allBare, Bool.and_eq_true] at bare
    exact bare.1
  | t :: t' :: ts =>
    show (decide (2 ≤ (t :: t' :: ts).length) && _ && _) = true
    rw [flat, bare]
    simp

mutual

/-- An erased tree is bare. -/
theorem isBare_erase : ∀ t : Pattern, t.erase.isBare = true
  | alternation branches => allBare_eraseAll branches
  | concatenation items => by
    rcases bare_eraseItems items with ⟨flat, bare⟩
    exact isBare_ofItems flat bare
  | group kind body => by
    rw [erase]
    split
    · exact isBare_erase body
    · -- a group that stays is not transparent
      rename_i kept
      rw [isBare, isBare_erase body, Bool.and_true]
      simpa using kept
  | transformed _ kind body => by
    rw [erase]
    split
    · exact isBare_erase body
    · rename_i kept
      rw [isBare, isBare_erase body, Bool.and_true]
      simpa using kept
  | repetition _ _ body => isBare_erase body
  | quote _ | trivia _ | atom _ | leveled _ _ | custom _ _ | empty => rfl

theorem allBare_eraseAll : ∀ ts : List Pattern, allBare (eraseAll ts) = true
  | [] => rfl
  | t :: ts => by rw [eraseAll, allBare, isBare_erase t, allBare_eraseAll ts, Bool.and_true]

/-- What is spliced into a sequence are items, and bare. -/
theorem bare_eraseItems : ∀ ts : List Pattern,
    (eraseItems ts).all isItem = true ∧ allBare (eraseItems ts) = true
  | [] => ⟨rfl, rfl⟩
  | t :: ts => by
    rcases bare_spliced (isBare_erase t) with ⟨flat, bare⟩
    rcases bare_eraseItems ts with ⟨flat', bare'⟩
    rw [eraseItems, List.all_append, allBare_append, flat, flat', bare, bare']
    exact ⟨rfl, rfl⟩

end

/-- Of `(.(?#note))` only the dot is left. -/
example : (concatenation [.group .capture (.concatenation [.atom .any, .trivia ['n']])]).erase =
    .atom .any := rfl

/-! ## Emptiness -/

/-- A sequence may be empty if both of its parts may. -/
theorem allMayBeEmpty_append (ts us : List Pattern) :
    allMayBeEmpty (ts ++ us) = (allMayBeEmpty ts && allMayBeEmpty us) := by
  induction ts with
  | nil => rfl
  | cons t ts ih => rw [List.cons_append, allMayBeEmpty, allMayBeEmpty, ih, Bool.and_assoc]

theorem allMayBeEmpty_singleton (t : Pattern) : allMayBeEmpty [t] = t.mayBeEmpty :=
  Bool.and_true _

/-- The items that a tree contributes may be empty together if the tree may. -/
theorem allMayBeEmpty_spliced (t : Pattern) : allMayBeEmpty t.spliced = t.mayBeEmpty := by
  cases t with
  | concatenation _ | empty => rfl
  | _ => exact allMayBeEmpty_singleton _

/-- A sequence of items may be empty if all of them may. -/
theorem mayBeEmpty_ofItems (items : List Pattern) :
    (ofItems items).mayBeEmpty = allMayBeEmpty items := by
  match items with
  | [] => rfl
  | [t] => exact (allMayBeEmpty_singleton t).symm
  | _ :: _ :: _ => rfl

mutual

/-- Erasing does not change whether a pattern may be empty. -/
theorem mayBeEmpty_erase : ∀ t : Pattern, t.erase.mayBeEmpty = t.mayBeEmpty
  | alternation branches => anyMayBeEmpty_eraseAll branches
  | concatenation items => by
    rw [erase, mayBeEmpty_ofItems, mayBeEmpty, allMayBeEmpty_eraseItems items]
  | group kind body => by
    rw [erase, mayBeEmpty]
    split
    · rename_i transparent
      rw [kind.looksAround_of_isTransparent transparent, mayBeEmpty_erase body, Bool.false_or]
    · rw [mayBeEmpty, mayBeEmpty_erase body]
  | transformed _ kind body => by
    rw [erase, mayBeEmpty]
    split
    · rename_i transparent
      rw [kind.looksAround_of_isTransparent transparent, mayBeEmpty_erase body, Bool.false_or]
    · rw [mayBeEmpty, mayBeEmpty_erase body]
  | repetition _ _ body => by rw [erase, mayBeEmpty, mayBeEmpty, mayBeEmpty_erase body]
  | quote _ | trivia _ | atom _ | leveled _ _ | custom _ _ | empty => rfl

theorem anyMayBeEmpty_eraseAll : ∀ ts : List Pattern,
    anyMayBeEmpty (eraseAll ts) = anyMayBeEmpty ts
  | [] => rfl
  | t :: ts => by
    rw [eraseAll, anyMayBeEmpty, anyMayBeEmpty, mayBeEmpty_erase t, anyMayBeEmpty_eraseAll ts]

theorem allMayBeEmpty_eraseItems : ∀ ts : List Pattern,
    allMayBeEmpty (eraseItems ts) = allMayBeEmpty ts
  | [] => rfl
  | t :: ts => by
    rw [eraseItems, allMayBeEmpty_append, allMayBeEmpty_spliced, mayBeEmpty_erase t,
      allMayBeEmpty_eraseItems ts, allMayBeEmpty]

end

/-! ## Leveling -/

variable (level : MatchLevel)

theorem withLevelAll_singleton (t : Pattern) :
    withLevelAll level [t] = (fun tree => [tree]) <$> withLevel level t := by
  rw [withLevelAll]
  cases withLevel level t <;> rfl

/-- A sequence is leveled from left to right. -/
theorem withLevelAll_append (ts us : List Pattern) :
    withLevelAll level (ts ++ us) = (do
      let ts' ← withLevelAll level ts
      let us' ← withLevelAll level us
      return ts' ++ us') := by
  induction ts with
  | nil => exact (id_map (withLevelAll level us)).symm
  | cons t ts ih => simp [withLevelAll, ih]

/-- Leveling a tree and splicing it in can change places: only single items are replaced, by single
items. -/
theorem withLevelAll_spliced (t : Pattern) :
    withLevelAll level t.spliced = spliced <$> withLevel level t := by
  cases t with
  | concatenation items => simp [withLevel, spliced]
  | atom a => cases a <;> rfl
  | quote _ | trivia _ | leveled _ _ | custom _ _ | empty => rfl
  | _ => simp [withLevelAll_singleton, withLevel, spliced]

/-- Leveling the items of a sequence levels the sequence. -/
theorem withLevel_ofItems (items : List Pattern) :
    withLevel level (ofItems items) = ofItems <$> withLevelAll level items := by
  match items with
  | [] => rfl
  | [t] => simp [ofItems, withLevelAll_singleton]
  | _ :: _ :: _ => simp [ofItems, withLevel, withLevelAll]

mutual

/-- Leveling an erased tree stops where leveling the tree does, or it makes what is left of the
leveled tree. -/
theorem withLevel_erase : ∀ t : Pattern, withLevel level t.erase = erase <$> withLevel level t
  | alternation branches => by
    rw [erase, withLevel, withLevel, withLevelAll_eraseAll branches]
    simp [erase]
  | concatenation items => by
    rw [erase, withLevel_ofItems, withLevel, withLevelAll_eraseItems items]
    simp [erase]
  | group kind body => by
    rw [erase, withLevel]
    split
    · rename_i transparent
      simp [withLevel_erase body, erase, transparent]
    · rename_i kept
      simp [withLevel, withLevel_erase body, erase, kept]
  | transformed _ kind body => by
    rw [erase, withLevel]
    split
    · rename_i transparent
      simp [withLevel_erase body, erase, transparent]
    · rename_i kept
      simp [withLevel, withLevel_erase body, erase, kept]
  | repetition _ _ body => by
    rw [erase, withLevel, withLevel, withLevel_erase body]
    simp [erase]
  | atom a => by cases a <;> rfl
  | quote _ | trivia _ | leveled _ _ | custom _ _ | empty => rfl

theorem withLevelAll_eraseAll : ∀ ts : List Pattern,
    withLevelAll level (eraseAll ts) = eraseAll <$> withLevelAll level ts
  | [] => rfl
  | t :: ts => by
    rw [eraseAll, withLevelAll, withLevelAll, withLevel_erase t, withLevelAll_eraseAll ts]
    simp [eraseAll]

theorem withLevelAll_eraseItems : ∀ ts : List Pattern,
    withLevelAll level (eraseItems ts) = eraseItems <$> withLevelAll level ts
  | [] => rfl
  | t :: ts => by
    rw [eraseItems, withLevelAll_append, withLevelAll_spliced, withLevel_erase t,
      withLevelAll_eraseItems ts, withLevelAll]
    simp [eraseItems]

end

end Pattern

end GraphemeRegex
