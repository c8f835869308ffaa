import GraphemeRegex.Reading.Fault
import GraphemeRegex.Reading.Window
import GraphemeRegex.Text.Display
import GraphemeRegex.Text.Strip
import GraphemeRegex.Unicode.Blank

/-! # Snippets — a message with the piece of source that it concerns

A snippet shows a message, the line of source and, under it, carets that point at a range of bytes,
with the message once more. It is meant for sources of one line; of a line that is wider than a
terminal it shows the columns of a window, with dots where something is missing.
-/

namespace GraphemeRegex

namespace Snippet

/-- A range of bytes, moved into a source of the given length; an empty range takes in the byte
behind it if there is one. -/
def adjustRange (first last length : Nat) : Nat × Nat :=
  let first := min first length
  let last := min last length
  if first = last then (first, min (first + 1) length) else (first, last)

/-- The scalars of a text that begin among its first `count` bytes. -/
def takeBytes (count : Nat) : Text → Text
  | [] => []
  | c :: rest => if count = 0 then [] else c :: takeBytes (count - c.utf8Size) rest

/-- The number of columns that the first `count` bytes of a source take. -/
def columnsBefore (source : Text) (count : Nat) : Nat :=
  (takeBytes count source).displayed.width

/-- The number of columns of the blanks that a source begins with; a blank source has none. -/
def indentation (source : Text) : Nat :=
  if source.all Unicode.whiteSpace.contains then 0
  else (Text.displayed (source.takeWhile Unicode.whiteSpace.contains)).width

/-- The window for a source with `count` columns marked from `first` on and the label behind them.
Label and line are measured in bytes, which are never fewer than their columns. -/
def window (source : Text) (first count : Nat) (label : Text) : Window :=
  .ofLandmarks ⟨indentation source, first, first + count, first + count + label.byteLength + 1,
    source.byteLength, Nat.le_add_right _ _⟩

/-! ## The rows -/

/-- What stands for the missing parts of a line. -/
def dots : Text := ['.', '.', '.']

/-- The column where the source begins, behind its number and a bar. -/
def sourceColumn : Nat := 4

/-- The rows of the message: the first behind the opening word, further ones under it. -/
def titleRows (message : Text) : List Strip :=
  match (message.splitOn '\n').map Text.displayed with
  | [] => []
  | line :: lines =>
    (Strip.put [] 0 "error".toList .opening).put 5 (": ".toList ++ line) .title ::
      lines.map fun line => (Strip.put [] 0 (List.replicate 7 ' ') .neutral).put 7 line .title

/-- The row of a bar alone. -/
def barRow : Strip := Strip.put [] 2 ['|'] .frame

/-- The row of the source, as far as the window shows it. Dots cover what is shown next to a
missing part. -/
def sourceRow (source : Text) (w : Window) : Strip :=
  let line := source.displayed
  let right := w.rightFor line.width
  let code := Text.takeFitting (right - w.left) (Text.splitReaching w.left line).2
  let row := barRow.put 0 ['1'] .frame
  let (row, column, code) :=
    if 0 < w.left then
      let (covered, code) := Text.splitReaching dots.length code
      (row.put sourceColumn dots .frame, sourceColumn + covered.width, code)
    else (row, sourceColumn, code)
  let row := row.put column code .neutral
  let covered := (Text.splitReaching dots.length code.reverse).1.length
  if right < line.width then row.put (column + code.length - covered) dots .frame else row

/-- The row of `count` carets under the column `first` of the window and of the label behind
them. -/
def pointerRow (first count : Nat) (label : Text) : Strip :=
  (barRow.put (sourceColumn + first) (List.replicate count '^') .pointer).put
    (sourceColumn + first + count + 1) label .pointer

/-- The snippet for a message about the bytes from `first` to `last`; no newline ends it. -/
def render (source : Text) (first last : Nat) (message : String) (colored : Bool) : String :=
  let message := message.toList
  let (first, last) := adjustRange first last source.byteLength
  let column := columnsBefore source first
  let count := max (columnsBefore source last - column) 1
  let w := window source column count message
  let rows := titleRows message ++
    [barRow, sourceRow source w, pointerRow (column - w.left) count message]
  "\n".intercalate (rows.map (·.render colored))

end Snippet

/-- The snippet for a fault in a source. -/
def ReadError.render (e : ReadError) (source : Text) (colored : Bool) : String :=
  Snippet.render source e.first e.last e.message colored

end GraphemeRegex
