import GraphemeRegex.Text.Basic

/-! # Strips — rows of cells with a role each

A strip is one row of a report. Texts are put on it at a column, over what is there, so that frame,
source and marks can be written one after the other; a gap that nothing covers is blank. The role
of a cell decides its colour.

* `length_put_cons`: a strip grows as far as the texts on it reach.
* `put_length`: a text put at the end of a strip follows what is there.
-/

namespace GraphemeRegex

/-- What a cell of a report belongs to. -/
inductive Role where
  /-- Text without a colour, such as the source. -/
  | neutral
  /-- The word that opens the report. -/
  | opening
  /-- The message behind that word. -/
  | title
  /-- Lines and line numbers around the source. -/
  | frame
  /-- Carets and their label. -/
  | pointer
  deriving DecidableEq, Repr

/-- The sequence that switches the colour of a role on, for the roles that have one. -/
def Role.sequence? : Role → Option String
  | neutral => none
  | opening | pointer => some "\x1b[1m\x1b[91m"
  | title => some "\x1b[1m"
  | frame => some "\x1b[1m\x1b[94m"

/-- A row of scalars with their roles. -/
abbrev Strip := List (Char × Role)

namespace Strip

/-- Writes a text at a column, over what is there; the gap before it is blank. An empty text
changes nothing and makes no gap. -/
def put (strip : Strip) (column : Nat) (text : Text) (role : Role) : Strip :=
  if text.isEmpty then strip
  else
    strip.take column ++ List.replicate (column - strip.length) (' ', .neutral) ++
      text.map (·, role) ++ strip.drop (column + text.length)

/-- The characters of a run of cells of one role, in its colour if colours are wanted. -/
def renderRun (colored : Bool) (run : Strip) : String :=
  let text := String.ofList (run.map (·.1))
  match (if colored then run.head?.bind (·.2.sequence?) else none) with
  | some sequence => sequence ++ text ++ "\x1b[0m"
  | none => text

/-- The strip as a line of text, without a newline. -/
def render (strip : Strip) (colored : Bool) : String :=
  String.join ((strip.splitBy fun a b => a.2 = b.2).map (renderRun colored))

@[simp] theorem put_nil (strip : Strip) (column : Nat) (role : Role) :
    strip.put column [] role = strip := rfl

theorem length_put_cons (strip : Strip) (column : Nat) (c : Char) (text : Text) (role : Role) :
    (strip.put column (c :: text) role).length =
      max strip.length (column + text.length + 1) := by
  simp only [put, List.isEmpty_cons, Bool.false_eq_true, if_false, List.length_append,
    List.length_take, List.length_replicate, List.length_map, List.length_drop, List.length_cons]
  omega

theorem put_length (strip : Strip) (text : Text) (role : Role) :
    strip.put strip.length text role = strip ++ text.map (·, role) := by
  cases text <;> simp [put]

end Strip

end GraphemeRegex
