import GraphemeRegex.Text.Basic
import GraphemeRegex.Unicode.ClusterTables
import GraphemeRegex.Unicode.DefaultIgnorable
import GraphemeRegex.Unicode.GraphemeExtend

/-! # Display — how a text looks on a terminal and how much room it takes

A displayed text has no tabs, controls or changes of direction: each stands as something visible.
Its width is the number of columns of a terminal that it covers, where wide scalars count as one
column. A line that is too wide is cut at columns.

* `width_append`: the width of two texts in a row is the sum of their widths.
* `splitReaching_append`: a text that is divided at a column loses nothing.
* `takeFitting_width`: what is taken to fit a number of columns fits it.
-/

namespace GraphemeRegex

namespace Text

/-- The number of blanks that stand for a tab. -/
def tabWidth : Nat := 4

/-- How a scalar is displayed: tabs as blanks, other controls as pictures, changes of direction as
replacement characters, and joiners not at all. -/
def displayScalar (c : Char) : Text :=
  if c = '\t' then List.replicate tabWidth ' '
  else if c.toNat < 0x20 then [Char.ofNat (0x2400 + c.toNat)]
  else if c = '\x7f' then ['\u2421']
  else if c = '\u200d' then []
  else if '\u202a' ≤ c ∧ c ≤ '\u202e' ∨ '\u2066' ≤ c ∧ c ≤ '\u2069' then ['\ufffd']
  else [c]

/-- How a text is displayed. -/
def displayed (text : Text) : Text :=
  text.flatMap displayScalar

/-! ## Widths -/

/-- The scalars that take a column although they are extenders or default ignorables: a filler that
opens a syllable, a joiner that is drawn, and the halfwidth sound marks. -/
def standsAlone (c : Char) : Bool :=
  c = '\u115f' || c = '\u2d7f' || c = '\uff9e' || c = '\uff9f'

/-- The vowels and final consonants of Hangul, which are drawn into the block of the syllable. -/
def hangulTails : Unicode.RangeTable := ⟨#[
  (0x1160, 0x11FF), (0xD7B0, 0xD7C6), (0xD7CB, 0xD7FB)]⟩

/-- The signs that reach over the digits behind them and have a column of their own. -/
def spanningSigns : Unicode.RangeTable := ⟨#[
  (0x600, 0x604), (0x6DD, 0x6DD), (0x110BD, 0x110BD), (0x110CD, 0x110CD)]⟩

/-- Whether a scalar is drawn on the column of a neighbour. -/
def isZeroWidth (c : Char) : Bool :=
  !standsAlone c &&
    (Unicode.defaultIgnorable.contains c || Unicode.graphemeExtend.contains c ||
      hangulTails.contains c || c = '\ua8fa' ||
      Unicode.prepending.contains c && !spanningSigns.contains c)

/-- The number of columns of a scalar of a displayed text. -/
def scalarWidth (c : Char) : Nat :=
  if isZeroWidth c then 0 else 1

/-- The number of columns of a displayed text. -/
def width : Text → Nat
  | [] => 0
  | c :: rest => scalarWidth c + width rest

@[simp] theorem width_nil : width [] = 0 := rfl

@[simp] theorem width_cons (c : Char) (text : Text) :
    width (c :: text) = scalarWidth c + width text := rfl

@[simp] theorem width_append (first second : Text) :
    width (first ++ second) = width first + width second := by
  induction first with
  | nil => simp
  | cons c rest ih => simp [ih, Nat.add_assoc]

/-! ## Cuts -/

/-- The shortest beginning of at least `columns` columns and what follows it; a text that is not as
wide is a beginning as a whole. -/
def splitReaching (columns : Nat) : Text → Text × Text
  | [] => ([], [])
  | c :: rest =>
    if columns = 0 then ([], c :: rest)
    else
      let (taken, left) := splitReaching (columns - scalarWidth c) rest
      (c :: taken, left)

/-- The longest beginning of at most `columns` columns. -/
def takeFitting (columns : Nat) : Text → Text
  | [] => []
  | c :: rest =>
    if scalarWidth c ≤ columns then c :: takeFitting (columns - scalarWidth c) rest else []

theorem splitReaching_append (columns : Nat) (text : Text) :
    (splitReaching columns text).1 ++ (splitReaching columns text).2 = text := by
  induction text generalizing columns with
  | nil => rfl
  | cons c rest ih =>
    rw [splitReaching]
    split
    · rfl
    · simp [ih]

theorem takeFitting_width (columns : Nat) (text : Text) :
    width (takeFitting columns text) ≤ columns := by
  induction text generalizing columns with
  | nil => exact Nat.zero_le _
  | cons c rest ih =>
    rw [takeFitting]
    split
    · have := ih (columns - scalarWidth c)
      simp only [width_cons]
      omega
    · exact Nat.zero_le _

end Text

end GraphemeRegex
