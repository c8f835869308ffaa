import GraphemeRegex.Pattern.Basic
import GraphemeRegex.Text.Quoted

/-! # Outlines — patterns as indented text

An outline has one line for each node, with the parts of a node two columns further in. The line of
a node is its tag, which also names the node in messages.

* `Pattern.tag`: the line of a node, without its indentation.
* `Pattern.outline`: the whole tree.
-/

namespace GraphemeRegex

/-- A code point as at least four upper-case hexadecimal digits. -/
def codePointDigits (c : Char) : String :=
  let digits := (Nat.toDigits 16 c.toNat).map Char.toUpper
  String.ofList (List.replicate (4 - digits.length) '0' ++ digits)

namespace Atom

/-- The description of an atom. -/
def tag : Atom → String
  | char text => "char " ++ text.quoted
  | scalar c => "scalar U+" ++ codePointDigits c
  | any => "any"
  | cls c => "class " ++ c.spelling
  | property name inverted =>
    "property " ++ (if inverted then "\\P\x7b" else "\\p\x7b") ++ String.ofList name ++ "\x7d"
  | anchor a => "anchor " ++ a.spelling
  | backreference r => "backreference " ++ r.spelling

end Atom

namespace Pattern

/-- One line of an outline. -/
def outlineLine (depth : Nat) (tag : String) : String :=
  String.ofList (List.replicate (2 * depth) ' ') ++ tag ++ "\n"

/-- The tag of a bracketed class. -/
def customTag (inverted : Bool) : String :=
  if inverted then "customCharacterClass(inverted)" else "customCharacterClass"

/-- The description of a node, without its parts. -/
def tag : Pattern → String
  | alternation _ => "alternation"
  | concatenation _ => "concatenation"
  | group kind _ => "group_" ++ kind.tag
  | transformed transform kind _ =>
    "groupTransform<" ++ String.ofList transform.name ++ "> group_" ++ kind.tag
  | repetition amount greed _ => "quant_" ++ amount.spelling ++ greed.spelling
  | quote text => "quote " ++ text.quoted
  | trivia text => "trivia " ++ text.quoted
  | atom a => "atom " ++ a.tag
  | leveled cls none => "characterClass " ++ cls.spelling
  | leveled cls (some level) => "characterClass " ++ cls.spelling ++ " @" ++ level.name
  | custom inverted _ => customTag inverted
  | empty => "empty"

end Pattern

namespace ClassMember

mutual

/-- The lines of a member of a bracketed class. -/
def outlineAt (depth : Nat) : ClassMember → String
  | atom a => Pattern.outlineLine depth a.tag
  | range low high => Pattern.outlineLine depth ("range " ++ low.tag ++ " - " ++ high.tag)
  | nested inverted members =>
    Pattern.outlineLine depth (Pattern.customTag inverted) ++ outlineAllAt (depth + 1) members
  | posix name inverted =>
    Pattern.outlineLine depth
      ("posix [:" ++ (if inverted then "^" else "") ++ String.ofList name ++ ":]")
  | quote text => Pattern.outlineLine depth ("quote " ++ text.quoted)

/-- The lines of several members. -/
def outlineAllAt (depth : Nat) : List ClassMember → String
  | [] => ""
  | m :: ms => outlineAt depth m ++ outlineAllAt depth ms

end

end ClassMember

namespace Pattern

mutual

/-- The lines of a node and its parts. -/
def outlineAt (depth : Nat) : Pattern → String
  | alternation branches =>
    outlineLine depth (tag (alternation branches)) ++ outlineAllAt (depth + 1) branches
  | concatenation items =>
    outlineLine depth (tag (concatenation items)) ++ outlineAllAt (depth + 1) items
  | group kind body => outlineLine depth (tag (group kind body)) ++ outlineAt (depth + 1) body
  | transformed transform kind body =>
    outlineLine depth (tag (transformed transform kind body)) ++ outlineAt (depth + 1) body
  | repetition amount greed body =>
    outlineLine depth (tag (repetition amount greed body)) ++ outlineAt (depth + 1) body
  | custom inverted members =>
    outlineLine depth (tag (custom inverted members)) ++
      ClassMember.outlineAllAt (depth + 1) members
  | quote text => outlineLine depth (tag (quote text))
  | trivia text => outlineLine depth (tag (trivia text))
  | atom a => outlineLine depth (tag (atom a))
  | leveled cls level => outlineLine depth (tag (leveled cls level))
  | empty => outlineLine depth (tag empty)

/-- The lines of several nodes. -/
def outlineAllAt (depth : Nat) : List Pattern → String
  | [] => ""
  | p :: ps => outlineAt depth p ++ outlineAllAt depth ps

end

/-- The outline of the whole tree. -/
def outline (p : Pattern) : String :=
  p.outlineAt 0

end Pattern

end GraphemeRegex
