import GraphemeRegex.Proofs.Program.Resolution

/-! # Constants — the texts of a program

A builder keeps the texts that calls need in one table, whether a call only asks for the number of a
text or writes an instruction that consumes it. The table is the one of the finished program, so the
number in each instruction leads to the text that the instruction was written for.

* `Builder.Call.string?`: the number that a call gives to a text.
* `Builder.internAll_of_performAll`: the numbers that calls give, and the table behind them.
* `Builder.Call.getElem?_emitted_eq_matchString_iff`: which calls write an instruction with a text.
* `Builder.texts_numbered`: the numbers of texts in a table and in a program.
-/

namespace GraphemeRegex

/-- The elements that come of a list are those that come of one of its elements, behind those of the
elements before it. -/
theorem getElem?_filterMap_eq_some_iff {α β : Type} {f : α → Option β} {l : List α} {n : Nat}
    {b : β} : (l.filterMap f)[n]? = some b ↔
      ∃ before a after, l = before ++ a :: after ∧ (before.filterMap f).length = n ∧
        f a = some b := by
  constructor
  · intro found
    obtain ⟨inside, here⟩ := List.getElem?_eq_some_iff.1 found
    have split : l.filterMap f = (l.filterMap f).take n ++ b :: (l.filterMap f).drop (n + 1) := by
      rw [← here, List.getElem_cons_drop, List.take_append_drop]
    obtain ⟨before, rest, rfl, first, others⟩ := List.filterMap_eq_append_iff.1 split
    -- elements from which nothing comes may stand in between
    obtain ⟨idle, a, after, rfl, nothing, made, _⟩ := List.filterMap_eq_cons_iff.1 others
    refine ⟨before ++ idle, a, after, (List.append_assoc _ _ _).symm, ?_, made⟩
    rw [List.filterMap_append, List.filterMap_eq_nil_iff.2 nothing, List.append_nil, first,
      List.length_take]
    omega
  · rintro ⟨before, a, after, rfl, rfl, made⟩
    simp [List.filterMap_append, made]

namespace Instruction

variable {α β : Type} {f : α → β} {i : Instruction α} {id : StringId} {level : MatchLevel}

theorem mapTargets_eq_matchString_iff :
    i.mapTargets f = .matchString id level ↔ i = .matchString id level := by
  cases i <;> simp [mapTargets, mapTargetsM]

end Instruction

namespace Builder

variable {b c : Builder} {calls : List Call} {call : Call}

/-! ## Numbers of texts -/

/-- The number that a call gives to the text that it needs. -/
def Call.string? (b : Builder) : Call → Option StringId
  | intern text | emitString text _ => some (b.intern text).1
  | _ => none

/-- A call gives a number to the text that it needs, as the table does. -/
theorem toList_string? (b : Builder) (call : Call) :
    (call.string? b).toList = (b.strings.internAll call.text?.toList).1 := by
  cases call <;> rfl

/-- A call adds the text that it needs, and no other one. -/
theorem strings_of_perform_eq (performed : b.perform call = .ok c) :
    c.strings = (b.strings.internAll call.text?.toList).2 := by
  cases call with
  | place label =>
    rcases place_eq_ok_iff.1 performed with ⟨_, rfl⟩
    rfl
  | emit i textless =>
    rcases allows_of_emit performed with ⟨_, rfl⟩
    rfl
  | _ =>
    cases performed
    rfl

theorem filterMap_text?_cons (call : Call) (calls : List Call) :
    (call :: calls).filterMap Call.text? = call.text?.toList ++ calls.filterMap Call.text? := by
  cases needs : call.text? <;> simp [needs]

/-- The texts that calls need are interned one after the other. -/
theorem internAll_of_performAll (performed : b.performAll calls = .ok c) :
    b.strings.internAll (calls.filterMap Call.text?) = (b.made Call.string? calls, c.strings) := by
  induction calls generalizing b with
  | nil =>
    cases performed
    rfl
  | cons call calls ih =>
    rcases performAll_cons_eq_ok performed with ⟨next, first, later⟩
    rw [filterMap_text?_cons, StringTable.internAll_append, ← strings_of_perform_eq first, ih later,
      made, first, toList_string?]

/-! ## Instructions with texts -/

namespace Call

variable {texts : List Text} {id : StringId} {level : MatchLevel}

theorem instruction?_eq_matchString_iff :
    call.instruction? texts = some (.matchString id level) ↔
      ∃ text, call = .emitString text level ∧ id = ⟨texts.idxOf text⟩ := by
  cases call with
  -- an instruction that is emitted as it is refers to no text
  | emit i textless =>
    constructor
    · intro same
      rw [instruction?, Option.some.injEq] at same
      subst same
      cases textless
    · rintro ⟨_, other, _⟩
      cases other
  | emitString text own =>
    simp only [instruction?, Option.some.injEq, Instruction.matchString.injEq, emitString.injEq]
    constructor
    · rintro ⟨rfl, rfl⟩
      exact ⟨text, ⟨rfl, rfl⟩, rfl⟩
    · rintro ⟨_, ⟨rfl, rfl⟩, rfl⟩
      exact ⟨rfl, rfl⟩
  | _ => simp [instruction?]

/-- An instruction with a text is written by a call that asks for it. -/
theorem getElem?_emitted_eq_matchString_iff {n : Nat} :
    (emitted calls)[n]? = some (.matchString id level) ↔
      ∃ before text after, calls = before ++ .emitString text level :: after ∧
        before.countP emits = n ∧ id = ⟨(constants calls).idxOf text⟩ := by
  rw [emitted, getElem?_filterMap_eq_some_iff]
  simp only [length_filterMap_instruction?, instruction?_eq_matchString_iff]
  constructor
  · rintro ⟨before, _, after, split, place, text, rfl, number⟩
    exact ⟨before, text, after, split, place, number⟩
  · rintro ⟨before, text, after, split, place, number⟩
    exact ⟨before, _, after, split, place, text, rfl, number⟩

end Call

/-! ## Programs -/

/-- The numbers of texts. If texts are interned one after the other, then equal ones and no others
are given the same number, a new one is given the number of the different texts before it, each
number leads to its text, also when more texts have been interned, other numbers lead to nothing,
and the table has as many texts as there are different ones.

The table of a program is the one that comes of interning the texts which the calls needed, with the
numbers that the calls gave to them. An instruction with a text stands in the program where a call
has written it, and its number leads to the text of that call. -/
theorem texts_numbered :
    (∀ texts : List Text,
      let ids := (StringTable.empty.internAll texts).1
      let t := (StringTable.empty.internAll texts).2
      (∀ i j : Nat, ids[i]? = ids[j]? ↔ texts[i]? = texts[j]?) ∧
      (∀ (i : Nat) (text : Text), texts[i]? = some text → text ∉ texts.take i →
        ids[i]? = some ⟨(texts.take i).toFinset.card⟩) ∧
      (∀ (i : Nat) (more : List Text), ids[i]?.bind (t.internAll more).2.get? = texts[i]?) ∧
      (∀ id, id ∉ ids → t.get? id = none) ∧
      t.size = texts.toFinset.card) ∧
    ∀ (calls : List Call) (b : Builder) (p : Program),
      empty.performAll calls = .ok b → b.assemble = .ok p →
        StringTable.empty.internAll (calls.filterMap Call.text?) =
          (empty.made Call.string? calls, p.strings) ∧
        ∀ (n : Nat) (id : StringId) (level : MatchLevel),
          p.code[n]? = some (.matchString id level) ↔
            ∃ before text after, calls = before ++ .emitString text level :: after ∧
              before.countP Call.emits = n ∧ p.strings.get? id = some text := by
  constructor
  · intro texts ids t
    have lists : t.Lists texts := StringTable.lists_empty.internAll texts
    refine ⟨fun i j => StringTable.getElem?_internAll_eq_iff, ?_, ?_, ?_, lists.size_eq⟩
    · intro i text here fresh
      exact StringTable.getElem?_internAll_of_fresh here fresh
    · intro i more
      exact StringTable.get?_internAll texts more i
    · intro id other
      exact StringTable.get?_internAll_of_notMem other
  · intro calls b p performed assembled
    have records : b.Records calls := records_empty.performAll performed
    rcases assemble_eq_ok_iff.1 assembled with ⟨_, rfl⟩
    refine ⟨internAll_of_performAll performed, ?_⟩
    intro n id level
    have written : b.finished.code[n]? = some (.matchString id level) ↔
        (Call.emitted calls)[n]? = some (.matchString id level) := by
      rw [finished, Array.getElem?_map, ← records.code, Array.getElem?_toList,
        Option.map_eq_some_iff]
      simp only [Instruction.mapTargets_eq_matchString_iff, exists_eq_right]
    rw [written, Call.getElem?_emitted_eq_matchString_iff]
    -- the number of a text that is needed is the only one that leads to it
    constructor
    · rintro ⟨before, text, after, rfl, place, number⟩
      refine ⟨before, text, after, rfl, place, ?_⟩
      refine (records.strings.get?_eq_some_iff ?_).2 number
      simp [Call.text?]
    · rintro ⟨before, text, after, rfl, place, found⟩
      refine ⟨before, text, after, rfl, place, ?_⟩
      refine (records.strings.get?_eq_some_iff ?_).1 found
      simp [Call.text?]

/-- Two texts, each of which is needed twice; one of them only for its number at first. -/
theorem texts_numbered_of_repeated_texts :
    let calls : List Call := [.intern ['a'], .newCounter 2, .emitString ['b'] .grapheme,
      .emitString ['a'] .scalar, .emit .fail rfl, .emitString ['b'] .scalar]
    ∃ b p, empty.performAll calls = .ok b ∧ b.assemble = .ok p ∧
      empty.made Call.string? calls = [⟨0⟩, ⟨1⟩, ⟨0⟩, ⟨1⟩] ∧
      p.code[1]? = some (.matchString ⟨0⟩ .scalar) ∧ p.strings.get? ⟨0⟩ = some ['a'] := by
  intro calls
  let b : Builder := ⟨#[.matchString ⟨1⟩ .grapheme, .matchString ⟨0⟩ .scalar, .fail,
    .matchString ⟨1⟩ .scalar], #[], #[2], 0, ⟨#[['a'], ['b']]⟩⟩
  have performed : empty.performAll calls = .ok b := by decide +kernel
  have assembled : b.assemble = .ok b.finished := by decide +kernel
  rcases texts_numbered.2 calls b b.finished performed assembled with ⟨numbers, written⟩
  have found : b.finished.strings.get? ⟨0⟩ = some ['a'] := rfl
  refine ⟨b, _, performed, assembled, ?_, ?_, found⟩
  · have made : (StringTable.empty.internAll (calls.filterMap Call.text?)).1 =
        empty.made Call.string? calls := congrArg Prod.fst numbers
    rw [← made]
    decide +kernel
  · rw [written 1 ⟨0⟩ .scalar]
    exact ⟨calls.take 3, ['a'], calls.drop 4, rfl, rfl, found⟩

end Builder

end GraphemeRegex
