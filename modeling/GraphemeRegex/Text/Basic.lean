/-! # Text — scalars, byte offsets and positions

A text is the list of its scalars. Offsets into a text count the bytes of its UTF-8 form, so not
every number is an offset: one that falls inside a scalar or past the end has no text after it.

* `Text.dropBytes?`: the text that follows an offset, if the offset lies between two scalars.
* `Position`: an offset together with the text that follows it; it moves forward only.
-/

namespace GraphemeRegex

/-- A text: the list of its scalars. -/
abbrev Text := List Char

namespace Text

/-- The number of bytes of the UTF-8 form. -/
def byteLength : Text → Nat
  | [] => 0
  | c :: rest => c.utf8Size + byteLength rest

/-- What follows the first `n` bytes; `none` when `n` lies inside a scalar or past the end. -/
def dropBytes? : Text → Nat → Option Text
  | text, 0 => some text
  | [], _ + 1 => none
  | c :: rest, n + 1 =>
    -- an offset inside the scalar is none of the text
    if n + 1 < c.utf8Size then none else dropBytes? rest (n + 1 - c.utf8Size)

/-- The only scalar of a text that has exactly one. -/
def single? : Text → Option Char
  | [c] => some c
  | _ => none

@[simp] theorem byteLength_nil : byteLength [] = 0 := rfl

@[simp] theorem byteLength_cons (c : Char) (text : Text) :
    byteLength (c :: text) = c.utf8Size + byteLength text := rfl

@[simp] theorem byteLength_append (first second : Text) :
    byteLength (first ++ second) = byteLength first + byteLength second := by
  induction first with
  | nil => simp
  | cons c rest ih => simp [ih, Nat.add_assoc]

/-- Dropping the bytes of a leading part leaves what follows it. -/
theorem dropBytes?_append (first second : Text) :
    dropBytes? (first ++ second) (byteLength first) = some second := by
  induction first with
  | nil => cases second <;> rfl
  | cons c rest ih =>
    have positive : 0 < c.utf8Size := c.utf8Size_pos
    obtain ⟨n, hn⟩ : ∃ n, byteLength (c :: rest) = n + 1 :=
      ⟨c.utf8Size - 1 + byteLength rest, by simp; omega⟩
    have size : c.utf8Size + byteLength rest = n + 1 := by simpa using hn
    rw [hn, List.cons_append, dropBytes?, if_neg (by omega)]
    rwa [show n + 1 - c.utf8Size = byteLength rest by omega]

end Text

/-! ## Positions -/

/-- A place in a text: how many bytes lie before it, and the text that follows it. -/
structure Position where
  offset : Nat
  rest : Text
  deriving DecidableEq, Repr

namespace Position

/-- The position behind `count` scalars. -/
def skip (p : Position) (count : Nat) : Position :=
  ⟨p.offset + Text.byteLength (p.rest.take count), p.rest.drop count⟩

/-- The next scalar and the position behind it. -/
def nextScalar? (p : Position) : Option (Char × Position) :=
  match p.rest with
  | [] => none
  | c :: rest => some (c, ⟨p.offset + c.utf8Size, rest⟩)

/-- The position behind `text`, if `text` is what follows. -/
def after? (p : Position) (text : Text) : Option Position :=
  (text.isPrefixOf? p.rest).map fun rest => ⟨p.offset + Text.byteLength text, rest⟩

/-- This position, then the ones behind each of the texts in turn; the texts are taken to be what
follows. -/
def along (p : Position) : List Text → List Position
  | [] => [p]
  | unit :: units => p :: (p.skip unit.length).along units

end Position

namespace Text

/-- The position before a text. -/
def start (text : Text) : Position := ⟨0, text⟩

/-- The position at a byte offset, if one is there. -/
def positionAt? (text : Text) (offset : Nat) : Option Position :=
  (text.dropBytes? offset).map (⟨offset, ·⟩)

end Text

end GraphemeRegex
