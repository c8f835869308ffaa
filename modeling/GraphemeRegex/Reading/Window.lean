/-! # Windows — which columns of a long line are shown

A line that is wider than a terminal is shown in part. The window is chosen so that the marked
columns and their label are in sight, and as much of the line before them as there is room for.

* `ofLandmarks_of_short`: the window of a short line without deep indentation is the whole line.
* `ofLandmarks_left_le`: no mark lies in front of the window.
-/

namespace GraphemeRegex

/-- The columns of a line that matter for the choice of a window. -/
structure Landmarks where
  /-- Where the indentation ends. -/
  indent : Nat
  /-- Where the marked columns begin. -/
  first : Nat
  /-- Where the marked columns end. -/
  last : Nat
  /-- Where the label behind the marks ends. -/
  labelEnd : Nat
  /-- An upper bound of the columns of the line. -/
  lineEnd : Nat
  first_le_last : first ≤ last
  deriving DecidableEq, Repr

/-- The columns from `left` up to `right`. -/
structure Window where
  left : Nat
  right : Nat
  left_le_right : left ≤ right
  deriving DecidableEq, Repr

namespace Window

/-- The columns that a terminal has for the source. -/
def capacity : Nat := 136

/-- The columns that are kept free on both sides of what has to be seen. -/
def margin : Nat := 6

/-- The window of full capacity that begins at a column. -/
def startingAt (left : Nat) : Window := ⟨left, left + capacity, Nat.le_add_right _ _⟩

/-- The window for a line. Only blanks in front of the marks count as indentation, and deep
indentation is cut in any case. A line that still does not fit is shown, by the first of these that
has room: from its indentation to the label; around marks and label, with the room that is left
halved; around the marks alone, with two fifths of the room on their left; or just the marks. -/
def ofLandmarks (m : Landmarks) : Window :=
  let indent := min m.indent m.first - margin
  let first := m.first - margin
  let last := m.last + margin
  let labelEnd := m.labelEnd + margin
  let left := if 20 < indent then indent - 16 else 0
  let right := max m.lineEnd left
  if right - left ≤ capacity then ⟨left, right, Nat.le_max_right _ _⟩
  else if labelEnd - indent ≤ capacity then startingAt indent
  else if labelEnd - first ≤ capacity then
    startingAt (first - (capacity - (labelEnd - first)) / 2)
  else if last - first ≤ capacity then
    startingAt (first - (capacity - (last - first)) / 5 * 2)
  else
    ⟨first, last,
      Nat.le_trans (Nat.sub_le _ _) (Nat.le_trans m.first_le_last (Nat.le_add_right _ _))⟩

/-- Where the part of a line of the given width that is shown ends. -/
def rightFor (w : Window) (lineWidth : Nat) : Nat :=
  if lineWidth - w.left ≤ capacity then lineWidth else min lineWidth w.right

/-- The window of a short line without deep indentation is the whole line. -/
theorem ofLandmarks_of_short (m : Landmarks) (shallow : m.indent ≤ 26)
    (short : m.lineEnd ≤ capacity) : ofLandmarks m = ⟨0, m.lineEnd, Nat.zero_le _⟩ := by
  have indent : ¬ 20 < min m.indent m.first - margin := by simp only [margin]; omega
  simp [ofLandmarks, indent, short]

/-- No mark lies in front of the window: it begins in the indentation before the marks, or near
the marks on their left. -/
theorem ofLandmarks_left_le (m : Landmarks) : (ofLandmarks m).left ≤ m.first := by
  simp only [ofLandmarks, startingAt]
  repeat' split
  all_goals simp only
  all_goals omega

end Window

end GraphemeRegex
