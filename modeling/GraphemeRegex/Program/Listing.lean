import GraphemeRegex.Program.Basic
import GraphemeRegex.Text.Palette

/-! # Listings — programs as text

A listing shows the registers, the constant texts and the code, each under a heading; the first two
are left out when there are none. Indices are padded with zeros to one width for each section.
-/

namespace GraphemeRegex

/-- The number of digits that show every index below `count`. -/
def indexWidth (count : Nat) : Nat :=
  (Nat.toDigits 10 (max (count - 1) 1)).length

/-- An index, padded with zeros. -/
def paddedIndex (width index : Nat) : String :=
  let digits := Nat.toDigits 10 index
  String.ofList (List.replicate (width - digits.length) '0' ++ digits)

namespace Program

/-- Each element of a list as a line of text, with its index. -/
def indexedLines {α : Type} (line : Nat → α → String) (items : List α) : String :=
  String.join ((List.range items.length).zipWith (fun i a => line i a ++ "\n") items)

/-- The counters with their initial values, and the marks. -/
def registerSection (p : Program) (c : Palette) : String :=
  if p.counters.isEmpty && p.marks == 0 then ""
  else
    c.inBlue "[registers]" ++ "\n" ++
      indexedLines (fun i initial =>
        c.dimmed (CounterId.spelling ⟨i⟩) ++ " = " ++ toString initial) p.counters.toList ++
      indexedLines (fun i _ => c.dimmed (MarkId.spelling ⟨i⟩) ++ " = unmarked")
        (List.replicate p.marks ()) ++
      "\n"

/-- The constant texts. -/
def stringSection (p : Program) (c : Palette) : String :=
  if p.strings.texts.isEmpty then ""
  else
    c.inBlue "[strings]" ++ "\n" ++
      indexedLines (fun i text =>
        "S" ++ paddedIndex (indexWidth p.strings.size) i ++ " " ++ c.inGreen text.quoted)
        p.strings.texts.toList ++
      "\n"

/-- The text that an instruction refers to by its number, shown behind it. -/
def remark (p : Program) (c : Palette) : Instruction Nat → String
  | .matchString id _ => "  " ++ c.inGreen ((p.strings.get? id).getD []).quoted
  | _ => ""

/-- The instructions. -/
def codeSection (p : Program) (c : Palette) : String :=
  c.inBlue "[code]" ++ "\n" ++
    indexedLines (fun index i =>
      c.dimmed (paddedIndex (indexWidth p.size) index) ++ "  " ++ i.spelling ++ p.remark c i)
      p.code.toList

/-- The listing of a program. -/
def listing (p : Program) (c : Palette) : String :=
  p.registerSection c ++ p.stringSection c ++ p.codeSection c

end Program

end GraphemeRegex
