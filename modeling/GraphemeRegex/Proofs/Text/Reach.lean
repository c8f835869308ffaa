import GraphemeRegex.Machine.Step
import Mathlib.Data.List.Basic

/-! # Reach — positions only move forward

`p.after? text = some q` says that `text` leads from `p` to `q`. Everything that consumes leads
from the old position to the new one by the text it took, so a run never moves back and never
leaves its subject.

* `Position.after?_eq_some_iff`: the equation that all the others come from.
* `Position.Reaches`: some text leads from one position to the other.
* `Text.positionAt?_eq_some_iff`: the positions of a text are those its start reaches.
* `Instruction.after?_of_consumes?`: what a consuming instruction takes lies in between.
-/

namespace GraphemeRegex

namespace Position

/-! ## Texts between positions -/

/-- A text leads from `p` to `q` when it stands between them. -/
theorem after?_eq_some_iff {p q : Position} {text : Text} :
    p.after? text = some q ↔
      p.rest = text ++ q.rest ∧ q.offset = p.offset + Text.byteLength text := by
  rcases q with ⟨offset, rest⟩
  simp only [after?, Option.map_eq_some_iff, List.isPrefixOf?_eq_some_iff_append_eq,
    Position.mk.injEq]
  constructor
  · rintro ⟨left, split, rfl, rfl⟩
    exact ⟨split.symm, rfl⟩
  · rintro ⟨split, rfl⟩
    exact ⟨rest, split.symm, rfl, rfl⟩

@[simp] theorem after?_nil (p : Position) : p.after? [] = some p := by
  simp [after?_eq_some_iff]

/-- Two texts in a row lead from the first position to the last one. -/
theorem after?_trans {p q r : Position} {first second : Text}
    (h : p.after? first = some q) (h' : q.after? second = some r) :
    p.after? (first ++ second) = some r := by
  rw [after?_eq_some_iff] at *
  refine ⟨by rw [h.1, h'.1, List.append_assoc], ?_⟩
  rw [h'.2, h.2, Text.byteLength_append, Nat.add_assoc]

/-- A text that leads to `r` in two parts stops in between. -/
theorem after?_append {p r : Position} {first second : Text} :
    p.after? (first ++ second) = some r ↔
      ∃ q, p.after? first = some q ∧ q.after? second = some r := by
  constructor
  · intro h
    rw [after?_eq_some_iff, Text.byteLength_append, List.append_assoc] at h
    -- the position in between is the one behind the first part
    refine ⟨⟨p.offset + Text.byteLength first, second ++ r.rest⟩, ?_, ?_⟩
    · exact after?_eq_some_iff.2 ⟨h.1, rfl⟩
    · exact after?_eq_some_iff.2 ⟨rfl, by rw [h.2, Nat.add_assoc]⟩
  · rintro ⟨q, h, h'⟩
    exact after?_trans h h'

/-! ## Reaching -/

/-- Some text leads from `p` to `q`. -/
def Reaches (p q : Position) : Prop := ∃ text, p.after? text = some q

namespace Reaches

theorem refl (p : Position) : p.Reaches p := ⟨[], after?_nil p⟩

/-- Moving forward twice is moving forward. -/
theorem trans {p q r : Position} : p.Reaches q → q.Reaches r → p.Reaches r := by
  rintro ⟨first, h⟩ ⟨second, h'⟩
  exact ⟨first ++ second, after?_trans h h'⟩

/-- A position that is reached leaves at most as much of the text. -/
theorem length_le {p q : Position} : p.Reaches q → q.rest.length ≤ p.rest.length := by
  rintro ⟨text, h⟩
  rw [(after?_eq_some_iff.1 h).1]
  simp

/-- A position that is reached leaves less of the text behind it, unless it is the same. -/
theorem length_lt_iff {p q : Position} (h : p.Reaches q) :
    q.rest.length < p.rest.length ↔ q ≠ p := by
  rcases h with ⟨text, h⟩
  constructor
  · rintro shorter rfl
    exact Nat.lt_irrefl _ shorter
  · intro other
    -- only the empty text leads back to where it started
    cases text with
    | nil =>
      rw [after?_nil, Option.some.injEq] at h
      exact absurd h.symm other
    | cons c text =>
      rw [(after?_eq_some_iff.1 h).1, List.length_append, List.length_cons]
      omega

/-- Along a text, positions are told apart by their offsets. -/
theorem offset_eq_iff {p q : Position} (h : p.Reaches q) : p.offset = q.offset ↔ p = q := by
  rcases h with ⟨text, h⟩
  constructor
  · intro same
    -- an offset that is the same leaves no room for a scalar in between
    cases text with
    | nil => simpa using h
    | cons c text =>
      have moved := (after?_eq_some_iff.1 h).2
      have positive : 0 < c.utf8Size := c.utf8Size_pos
      rw [Text.byteLength_cons] at moved
      omega
  · rintro rfl
    rfl

/-- What leaves less of the text has a greater offset. -/
theorem offset_lt {p q : Position} (h : p.Reaches q) (shorter : q.rest.length < p.rest.length) :
    p.offset < q.offset := by
  have le : p.offset ≤ q.offset := by
    obtain ⟨text, taken⟩ := h
    rw [(after?_eq_some_iff.1 taken).2]
    exact Nat.le_add_right _ _
  refine Nat.lt_of_le_of_ne le ?_
  intro same
  exact h.length_lt_iff.1 shorter (h.offset_eq_iff.1 same).symm

/-- Along a text, positions are told apart by what is left behind them. -/
theorem eq_of_rest {p q r : Position} (h : p.Reaches q) (h' : p.Reaches r)
    (same : q.rest = r.rest) : q = r := by
  rcases h with ⟨first, h⟩
  rcases h' with ⟨second, h'⟩
  have split : first ++ r.rest = second ++ r.rest := by
    rw [← (after?_eq_some_iff.1 h').1, ← same]
    exact (after?_eq_some_iff.1 h).1.symm
  rw [List.append_cancel_right split, h', Option.some.injEq] at h
  exact h.symm

end Reaches

end Position

/-! ## Positions of a text -/

namespace Text

/-- Dropping bytes drops whole scalars, or nothing is given. -/
theorem dropBytes?_eq_some {text rest : Text} {n : Nat} (h : text.dropBytes? n = some rest) :
    ∃ taken, text = taken ++ rest ∧ byteLength taken = n := by
  induction text generalizing n with
  | nil =>
    cases n with
    | zero =>
      refine ⟨[], ?_, rfl⟩
      simpa [dropBytes?] using h
    | succ n => simp [dropBytes?] at h
  | cons c text ih =>
    cases n with
    | zero =>
      refine ⟨[], ?_, rfl⟩
      simpa [dropBytes?] using h
    | succ n =>
      rw [dropBytes?] at h
      split at h
      · simp at h
      · -- the next scalar takes up no more than what is to be dropped
        rename_i inside
        rcases ih h with ⟨taken, rfl, size⟩
        refine ⟨c :: taken, rfl, ?_⟩
        rw [byteLength_cons, size]
        omega

/-- The positions of a text are those that its start reaches. -/
theorem positionAt?_eq_some_iff {text : Text} {n : Nat} {p : Position} :
    text.positionAt? n = some p ↔ text.start.Reaches p ∧ p.offset = n := by
  constructor
  · intro h
    rcases Option.map_eq_some_iff.1 h with ⟨rest, drop, rfl⟩
    rcases dropBytes?_eq_some drop with ⟨taken, rfl, rfl⟩
    exact ⟨⟨taken, Position.after?_eq_some_iff.2 ⟨rfl, by simp [start]⟩⟩, rfl⟩
  · rintro ⟨⟨taken, h⟩, rfl⟩
    -- a text that leads to the position is the one that is dropped
    have split : text = taken ++ p.rest := (Position.after?_eq_some_iff.1 h).1
    have size : p.offset = byteLength taken := by
      simpa [start] using (Position.after?_eq_some_iff.1 h).2
    have dropped : text.dropBytes? p.offset = some p.rest := by
      rw [size, split]
      exact dropBytes?_append taken p.rest
    rw [positionAt?, dropped]
    rfl

/-- A position of a text lies where the text ends exactly when nothing is left behind it. -/
theorem offset_eq_byteLength_iff {text : Text} {p : Position} (h : text.start.Reaches p) :
    p.offset = text.byteLength ↔ p.rest = [] := by
  rcases h with ⟨taken, h⟩
  have split : text = taken ++ p.rest := (Position.after?_eq_some_iff.1 h).1
  have size : p.offset = byteLength taken := by
    simpa [start] using (Position.after?_eq_some_iff.1 h).2
  rw [size, split, byteLength_append]
  cases p.rest with
  | nil => simp
  | cons c rest =>
    have positive : 0 < c.utf8Size := c.utf8Size_pos
    simp only [byteLength_cons, reduceCtorEq, iff_false]
    omega

end Text

/-! ## Consuming -/

namespace Position

variable {p q : Position} {text : Text}

/-- The next scalar leads behind itself. -/
theorem after?_of_nextScalar? {c : Char} (h : p.nextScalar? = some (c, q)) :
    p.after? [c] = some q := by
  rw [nextScalar?] at h
  split at h
  · simp at h
  · rename_i rest split
    simp only [Option.some.injEq, Prod.mk.injEq] at h
    rcases h with ⟨rfl, rfl⟩
    exact after?_eq_some_iff.2 ⟨split, by simp⟩

/-- A scalar is the next one if it leads anywhere. -/
theorem nextScalar?_eq_some_iff {p q : Position} {c : Char} :
    p.nextScalar? = some (c, q) ↔ p.after? [c] = some q := by
  constructor
  · exact after?_of_nextScalar?
  · intro h
    rcases after?_eq_some_iff.1 h with ⟨split, offset⟩
    rcases q with ⟨_, rest⟩
    rw [nextScalar?, split]
    simp only [Text.byteLength_cons, Text.byteLength_nil, Nat.add_zero] at offset
    simp [offset]

/-- A cluster leads behind itself, and is not empty. -/
theorem after?_of_nextCluster? (h : p.nextCluster? = some (text, q)) :
    p.after? text = some q ∧ text ≠ [] := by
  rw [nextCluster?] at h
  split at h
  · simp at h
  · rename_i c rest split
    simp only [Option.some.injEq, Prod.mk.injEq] at h
    rcases h with ⟨rfl, rfl⟩
    refine ⟨after?_eq_some_iff.2 ⟨?_, rfl⟩, by simp [Text.takeCluster]⟩
    rw [split]
    exact (Text.takeCluster_append (c :: rest)).symm

theorem nextClusters?_one (p : Position) : nextClusters? [] 1 p = p.nextCluster? := by
  rw [nextClusters?]
  cases p.nextCluster? with
  | none => rfl
  | some found => rfl

/-- Any scalar, taken as a class, is the next unit. -/
theorem consume?_anyScalar (p : Position) :
    p.consume? .anyScalar .scalar = p.nextUnit? .scalar := by
  unfold consume? nextUnit?
  rw [if_neg (by decide)]
  cases p.nextScalar? with
  | none => rfl
  | some found => rfl

/-- Several clusters lead from one to the next. -/
theorem after?_of_nextClusters? {taken : Text} {count : Nat}
    (h : nextClusters? taken count p = some (text, q)) :
    ∃ more, text = taken ++ more ∧ p.after? more = some q := by
  induction count generalizing taken p with
  | zero =>
    simp only [nextClusters?, Option.some.injEq, Prod.mk.injEq] at h
    rcases h with ⟨rfl, rfl⟩
    exact ⟨[], by simp, after?_nil p⟩
  | succ count ih =>
    rw [nextClusters?] at h
    split at h
    · simp at h
    · -- the first cluster, and from there the others
      rename_i cluster middle first
      rcases ih h with ⟨more, rfl, later⟩
      refine ⟨cluster ++ more, by rw [List.append_assoc], ?_⟩
      exact after?_trans (after?_of_nextCluster? first).1 later

/-- A text that is matched is the text that was asked for. -/
theorem after?_of_matchText? {wanted : Text} {level : MatchLevel}
    (h : p.matchText? wanted level = some (text, q)) : p.after? text = some q ∧ text = wanted := by
  cases level with
  | grapheme =>
    rcases Option.filter_eq_some_iff.1 h with ⟨found, same⟩
    exact ⟨(after?_of_nextCluster? found).1, by simpa using same⟩
  | scalar =>
    rcases Option.map_eq_some_iff.1 h with ⟨_, found, pair⟩
    cases pair
    exact ⟨found, rfl⟩

/-- A string that is matched is the one that was asked for, at either level. -/
theorem after?_of_matchString? {subject wanted : Text} {level : MatchLevel}
    (h : matchString? subject p wanted level = some (text, q)) :
    p.after? text = some q ∧ text = wanted := by
  cases level with
  | grapheme =>
    rcases Option.bind_eq_some_iff.1 h with ⟨_, found, pair⟩
    split at pair
    · cases pair
      exact ⟨found, rfl⟩
    · simp at pair
  | scalar =>
    rcases Option.map_eq_some_iff.1 h with ⟨_, found, pair⟩
    cases pair
    exact ⟨found, rfl⟩

/-- A class takes a unit that is not empty. -/
theorem after?_of_consume? {cls : CharClass} {level : MatchLevel}
    (h : p.consume? cls level = some (text, q)) : p.after? text = some q ∧ text ≠ [] := by
  rw [consume?] at h
  split at h
  · exact after?_of_nextCluster? (Option.filter_eq_some_iff.1 h).1
  · rcases Option.map_eq_some_iff.1 h with ⟨⟨c, _⟩, found, pair⟩
    cases pair
    exact ⟨after?_of_nextScalar? (Option.filter_eq_some_iff.1 found).1, by simp⟩

end Position

/-- What a consuming instruction takes leads from the old position to the new one. -/
theorem Instruction.after?_of_consumes? {i : Instruction Nat} {m : Machine} {p q : Position}
    {text : Text} (h : i.consumes? m p = some (text, q)) : p.after? text = some q := by
  cases i with
  | advance count =>
    rcases Position.after?_of_nextClusters? h with ⟨more, rfl, found⟩
    exact found
  | matchText wanted level => exact (Position.after?_of_matchText? h).1
  | matchString string level =>
    rcases Option.bind_eq_some_iff.1 h with ⟨wanted, _, found⟩
    exact (Position.after?_of_matchString? found).1
  | consume cls level => exact (Position.after?_of_consume? h).1
  | _ => simp [Instruction.consumes?] at h

end GraphemeRegex
