import GraphemeRegex.Program.Instruction

/-! # String tables — constant texts, each stored once

A table numbers texts in the order of their first occurrence; equal texts share one number.
-/

namespace GraphemeRegex

/-- The constant texts of a program, in order of their numbers. -/
structure StringTable where
  texts : Array Text
  deriving DecidableEq, Repr

namespace StringTable

/-- No texts. -/
def empty : StringTable := ⟨#[]⟩

/-- The number of different texts. -/
def size (t : StringTable) : Nat := t.texts.size

/-- The text with the given number. -/
def get? (t : StringTable) (id : StringId) : Option Text := t.texts[id.index]?

/-- The number of a text, with the text added if it is new. -/
def intern (t : StringTable) (text : Text) : StringId × StringTable :=
  match t.texts.idxOf? text with
  | some index => (⟨index⟩, t)
  | none => (⟨t.texts.size⟩, ⟨t.texts.push text⟩)

/-- The number of a text leads back to it. -/
theorem get?_intern (t : StringTable) (text : Text) :
    (t.intern text).2.get? (t.intern text).1 = some text := by
  unfold intern
  split
  · rename_i index found
    rw [Array.idxOf?_eq_map_finIdxOf?_val, Option.map_eq_some_iff] at found
    obtain ⟨i, found, rfl⟩ := found
    have same := (Array.finIdxOf?_eq_some_iff.1 found).1
    simpa [get?] using same
  · simp [get?]

end StringTable

end GraphemeRegex
