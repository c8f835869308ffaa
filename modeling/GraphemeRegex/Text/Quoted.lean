import GraphemeRegex.Text.Basic
import GraphemeRegex.Unicode.DefaultIgnorable
import GraphemeRegex.Unicode.GraphemeExtend
import GraphemeRegex.Unicode.Unprintable

/-! # Quoted texts — one visible form for every text

A quoted text stands between double quotes and shows each scalar either as itself or as an escape,
so that it is printable, fits on one line and can be read back.

* The quote and the backslash are escaped by a backslash, and so are NUL, tab, CR and LF by a
  letter.
* Grapheme extenders, default ignorables and unprintable scalars are escaped by their code point in
  lower-case hexadecimal digits. The halfwidth sound marks are extenders that stand well on their
  own, and are shown as themselves.
-/

namespace GraphemeRegex

namespace Text

/-- The halfwidth voiced and semi-voiced sound marks: extenders that have a place of their own. -/
def isHalfwidthSoundMark (c : Char) : Bool :=
  c = '\uff9e' || c = '\uff9f'

/-- Whether a scalar is shown by its code point. -/
def needsCodePoint (c : Char) : Bool :=
  Unicode.graphemeExtend.contains c && !isHalfwidthSoundMark c ||
    Unicode.defaultIgnorable.contains c || Unicode.unprintable.contains c

/-- How one scalar is shown between quotes. -/
def escapeScalar (c : Char) : String :=
  if c = '\x00' then "\\0"
  else if c = '\t' then "\\t"
  else if c = '\r' then "\\r"
  else if c = '\n' then "\\n"
  else if c = '"' then "\\\""
  else if c = '\\' then "\\\\"
  else if needsCodePoint c then
    "\\u\x7b" ++ String.ofList (Nat.toDigits 16 c.toNat) ++ "\x7d"
  else String.singleton c

/-- A text between double quotes, with its scalars escaped where needed. -/
def quoted (text : Text) : String :=
  "\"" ++ String.join (text.map escapeScalar) ++ "\""

end Text

end GraphemeRegex
