import GraphemeRegex.Program.StringTable
import Mathlib.Data.Finset.Card
import Mathlib.Data.Finset.Dedup
import Mathlib.Data.List.Basic

/-! # Interning — the numbers of constant texts

Texts are numbered in the order in which they first occur, so the table of a list of texts is that
list without its repetitions, and the number of a text is its place there.

* `StringTable.Lists`: a table holds the different texts of a list.
* `StringTable.Lists.intern`: interning a text goes on with the list.
* `StringTable.Lists.intern_fst`: the number that a text is given.
* `StringTable.internAll`: texts that are interned one after the other.
* `StringTable.getElem?_internAll_eq_iff`, `StringTable.get?_internAll`: equal texts share a number,
  which leads back to them.
-/

namespace GraphemeRegex

namespace StringTable

/-- The table holds the different texts of a list, in the order of their first occurrence. -/
def Lists (t : StringTable) (texts : List Text) : Prop :=
  t.texts.toList = texts.eraseDups

theorem lists_empty : empty.Lists [] := rfl

variable {t : StringTable} {texts : List Text}

/-- A table has the texts of its list. -/
theorem Lists.mem_iff (h : t.Lists texts) {text : Text} : text ∈ t.texts ↔ text ∈ texts := by
  rw [← Array.mem_toList_iff, h, List.mem_eraseDups]

theorem Lists.intern (h : t.Lists texts) (text : Text) :
    (t.intern text).2.Lists (texts ++ [text]) := by
  rw [Lists, List.eraseDups_append, ← h, StringTable.intern]
  by_cases known : text ∈ t.texts
  · obtain ⟨index, found⟩ := Option.isSome_iff_exists.1 (Array.isSome_idxOf?.2 known)
    rw [found]
    simp [List.removeAll, h.mem_iff.1 known]
  · have fresh : text ∉ texts := fun mem => known (h.mem_iff.2 mem)
    rw [Array.idxOf?_eq_none_iff.2 known]
    simp [List.removeAll, fresh, List.eraseDups_cons]

/-- The number that a text is given is the place where it first occurs in the table behind. -/
theorem index_intern (t : StringTable) (text : Text) :
    (t.intern text).1.index = (t.intern text).2.texts.toList.idxOf text := by
  obtain ⟨⟨texts⟩⟩ := t
  rw [StringTable.intern, List.idxOf?_toArray]
  cases found : texts.idxOf? text with
  | some index =>
    rw [List.idxOf_eq_getD_idxOf?, found]
    rfl
  | none =>
    have fresh : text ∉ texts := List.idxOf?_eq_none_iff.1 found
    simp [List.idxOf_append_of_notMem fresh]

/-- A text is given its place among the different texts of the list. -/
theorem Lists.intern_fst (h : t.Lists texts) (text : Text) :
    (t.intern text).1 = ⟨(texts ++ [text]).eraseDups.idxOf text⟩ := by
  rw [← h.intern text, ← index_intern]

/-! ## Different texts -/

section Different

variable {α : Type} [BEq α] [LawfulBEq α] {l : List α} {a b : α}

theorem prefix_eraseDups_append (l l' : List α) : l.eraseDups <+: (l ++ l').eraseDups := by
  rw [List.eraseDups_append]
  exact List.prefix_append _ _

/-- Nothing is left twice. -/
theorem nodup_eraseDups (l : List α) : l.eraseDups.Nodup := by
  induction l using List.reverseRecOn with
  | nil => exact List.nodup_nil
  | append_singleton l a ih =>
    -- the last element is left out unless it is new
    rw [List.eraseDups_append]
    by_cases known : a ∈ l
    · simpa [List.removeAll, known] using ih
    · have fresh : [a].removeAll l = [a] := by simp [List.removeAll, known]
      rw [fresh, List.eraseDups_cons, List.filter_nil, List.eraseDups_nil]
      refine List.nodup_append.2 ⟨ih, List.nodup_singleton a, ?_⟩
      intro b earlier c last same
      rw [List.mem_eraseDups] at earlier
      rw [List.mem_singleton] at last
      exact known (last ▸ same ▸ earlier)

/-- The place of an element does not depend on the elements behind. -/
theorem idxOf_eraseDups_append (mem : a ∈ l) (l' : List α) :
    (l ++ l').eraseDups.idxOf a = l.eraseDups.idxOf a :=
  ((prefix_eraseDups_append l l').idxOf_eq_of_mem (List.mem_eraseDups.2 mem)).symm

/-- Different elements have different places. -/
theorem idxOf_eraseDups_inj (mem : a ∈ l) :
    l.eraseDups.idxOf a = l.eraseDups.idxOf b ↔ a = b :=
  List.idxOf_inj (List.mem_eraseDups.2 mem)

/-- A new element has its place behind all different ones before it. -/
theorem idxOf_eraseDups_of_notMem (fresh : a ∉ l) (l' : List α) :
    (l ++ a :: l').eraseDups.idxOf a = l.eraseDups.length := by
  have absent : a ∉ l.eraseDups := fun mem => fresh (List.mem_eraseDups.1 mem)
  rw [List.eraseDups_append, List.idxOf_append_of_notMem absent]
  have first : (a :: l').removeAll l = a :: l'.removeAll l := by
    simp [List.removeAll, fresh]
  rw [first, List.eraseDups_cons, List.idxOf_cons_self, Nat.add_zero]

/-- As many are left as there are different ones. -/
theorem length_eraseDups [DecidableEq α] (l : List α) :
    l.eraseDups.length = l.toFinset.card := by
  have same : l.eraseDups.toFinset = l.toFinset := by
    ext a
    rw [List.mem_toFinset, List.mem_toFinset, List.mem_eraseDups]
  rw [← same, List.toFinset_card_of_nodup (nodup_eraseDups l)]

end Different

/-! ## One text after the other -/

/-- Interns texts one after the other: the numbers that they are given, and the table behind. -/
def internAll (t : StringTable) : List Text → List StringId × StringTable
  | [] => ([], t)
  | text :: texts =>
    let (id, next) := t.intern text
    let (ids, last) := next.internAll texts
    (id :: ids, last)

theorem internAll_cons (t : StringTable) (text : Text) (texts : List Text) :
    t.internAll (text :: texts) =
      ((t.intern text).1 :: ((t.intern text).2.internAll texts).1,
        ((t.intern text).2.internAll texts).2) := rfl

/-- Interning goes on where it has stopped. -/
theorem internAll_append (t : StringTable) (texts more : List Text) :
    t.internAll (texts ++ more) =
      ((t.internAll texts).1 ++ ((t.internAll texts).2.internAll more).1,
        ((t.internAll texts).2.internAll more).2) := by
  induction texts generalizing t with
  | nil => rfl
  | cons text texts ih => simp only [List.cons_append, internAll_cons, ih]

/-- Behind several texts, the table holds all of them. -/
theorem Lists.internAll (h : t.Lists texts) (more : List Text) :
    (t.internAll more).2.Lists (texts ++ more) := by
  induction more generalizing t texts with
  | nil => rwa [List.append_nil]
  | cons text more ih =>
    have later := ih (h.intern text)
    rwa [List.append_assoc] at later

/-- Texts are given their places among all the different texts. -/
theorem Lists.internAll_fst (h : t.Lists texts) (more : List Text) :
    (t.internAll more).1 = more.map fun text => ⟨(texts ++ more).eraseDups.idxOf text⟩ := by
  induction more generalizing t texts with
  | nil => rfl
  | cons text more ih =>
    have later := ih (h.intern text)
    have known : text ∈ texts ++ [text] := by simp
    -- the first one is given its place as if it were the last one
    have first := idxOf_eraseDups_append known more
    rw [List.append_assoc, List.singleton_append] at later first
    rw [internAll_cons, List.map_cons, h.intern_fst text, first, later]

/-- The numbers of a table lead to its texts, and no other ones do. -/
theorem Lists.get?_eq (h : t.Lists texts) (id : StringId) :
    t.get? id = texts.eraseDups[id.index]? := by
  rw [get?, ← Array.getElem?_toList, h]

/-- A number leads to a text if it is that of its place. -/
theorem Lists.get?_eq_some_iff (h : t.Lists texts) {id : StringId} {text : Text}
    (mem : text ∈ texts) : t.get? id = some text ↔ id = ⟨texts.eraseDups.idxOf text⟩ := by
  have found := List.getElem?_idxOf (List.mem_eraseDups.2 mem)
  rw [h.get?_eq]
  constructor
  · intro here
    have inside := (List.getElem?_eq_some_iff.1 here).1
    cases id
    exact congrArg StringId.mk
      ((List.getElem?_inj inside (nodup_eraseDups texts)).1 (here.trans found.symm))
  · rintro rfl
    exact found

/-- Behind all texts, no number leads to a text but those that were given. -/
theorem Lists.get?_eq_none (h : t.Lists texts) {id : StringId}
    (other : ∀ text ∈ texts, id ≠ ⟨texts.eraseDups.idxOf text⟩) : t.get? id = none := by
  rw [Option.eq_none_iff_forall_ne_some]
  intro text found
  have mem : text ∈ texts := by
    rw [h.get?_eq] at found
    exact List.mem_eraseDups.1 (List.mem_of_getElem? found)
  exact other text mem ((h.get?_eq_some_iff mem).1 found)

/-- A table has as many texts as there are different ones. -/
theorem Lists.size_eq (h : t.Lists texts) : t.size = texts.toFinset.card := by
  rw [size, ← Array.length_toList, h, length_eraseDups]

variable {i j : Nat} {text : Text}

/-- The first table gives texts their places among themselves. -/
theorem getElem?_internAll (texts : List Text) (i : Nat) :
    (empty.internAll texts).1[i]? =
      texts[i]?.map fun text => ⟨texts.eraseDups.idxOf text⟩ := by
  rw [lists_empty.internAll_fst texts, List.getElem?_map, List.nil_append]

/-- Two texts are given the same number if they are equal, and in no other case. -/
theorem getElem?_internAll_eq_iff :
    (empty.internAll texts).1[i]? = (empty.internAll texts).1[j]? ↔ texts[i]? = texts[j]? := by
  rw [getElem?_internAll, getElem?_internAll]
  constructor
  · intro same
    cases here : texts[i]? with
    | none =>
      rw [here, Option.map_none, eq_comm, Option.map_eq_none_iff] at same
      exact same.symm
    | some text =>
      rw [here, Option.map_some, eq_comm, Option.map_eq_some_iff] at same
      -- two texts in the same place are the same
      obtain ⟨other, there, places⟩ := same
      have mem : other ∈ texts := List.mem_of_getElem? there
      rw [there, (idxOf_eraseDups_inj mem).1 (congrArg StringId.index places)]
  · intro same
    rw [same]

/-- A text that has not occurred before is given the number of the different texts before it. -/
theorem getElem?_internAll_of_fresh (here : texts[i]? = some text) (fresh : text ∉ texts.take i) :
    (empty.internAll texts).1[i]? = some ⟨(texts.take i).toFinset.card⟩ := by
  obtain ⟨inside, same⟩ := List.getElem?_eq_some_iff.1 here
  have split : texts = texts.take i ++ text :: texts.drop (i + 1) := by
    rw [← same, List.getElem_cons_drop, List.take_append_drop]
  have place := idxOf_eraseDups_of_notMem fresh (texts.drop (i + 1))
  rw [← split] at place
  rw [getElem?_internAll, here, Option.map_some, place, length_eraseDups]

/-- A number leads to its text, whatever is interned later. -/
theorem get?_internAll (texts more : List Text) (i : Nat) :
    (empty.internAll texts).1[i]?.bind ((empty.internAll texts).2.internAll more).2.get? =
      texts[i]? := by
  have lists := (lists_empty.internAll texts).internAll more
  rw [List.nil_append] at lists
  rw [getElem?_internAll]
  cases here : texts[i]? with
  | none => rfl
  | some text =>
    have mem : text ∈ texts := List.mem_of_getElem? here
    rw [Option.map_some, Option.bind_some, lists.get?_eq_some_iff (List.mem_append_left _ mem),
      idxOf_eraseDups_append mem]

/-- A number that was not given leads to nothing. -/
theorem get?_internAll_of_notMem {id : StringId} (other : id ∉ (empty.internAll texts).1) :
    (empty.internAll texts).2.get? id = none := by
  have lists := lists_empty.internAll texts
  rw [lists_empty.internAll_fst, List.nil_append] at other
  apply lists.get?_eq_none
  rintro text mem rfl
  exact other (List.mem_map.2 ⟨text, mem, rfl⟩)

end StringTable

end GraphemeRegex
