import GraphemeRegex.CharClass.Basic
import GraphemeRegex.MatchLevel
import GraphemeRegex.Pattern.Group

/-! # Patterns — the tree that a pattern text stands for

* `Atom`: what matches, or asserts, at one place.
* `ClassMember`: what stands in a bracketed class.
* `Amount` and `Greed`: how often a part repeats and which count is tried first.
* `Pattern`: the tree itself, with `Pattern.ofBranches` and `Pattern.ofItems`, which build the
  smallest tree for a list of parts.
-/

namespace GraphemeRegex

/-! ## Atoms -/

/-- A place that is asserted, without consuming anything. -/
inductive Anchor where
  | startOfLine
  | endOfLine
  | startOfSubject
  | endOfSubject
  | endOfSubjectBeforeNewline
  | wordBoundary
  | notWordBoundary
  | firstMatchingPosition
  deriving DecidableEq, Repr

namespace Anchor

/-- How the anchor is written. -/
def spelling : Anchor → String
  | startOfLine => "^"
  | endOfLine => "$"
  | startOfSubject => "\\A"
  | endOfSubject => "\\z"
  | endOfSubjectBeforeNewline => "\\Z"
  | wordBoundary => "\\b"
  | notWordBoundary => "\\B"
  | firstMatchingPosition => "\\G"

end Anchor

/-- A group that is referred back to. -/
inductive Reference where
  | absolute (n : Nat)
  | relative (n : Int)
  | named (name : Text)
  deriving DecidableEq, Repr

namespace Reference

/-- How the reference is written; a relative number always shows its sign. -/
def spelling : Reference → String
  | absolute n => "\\" ++ toString n
  | relative n => "\\g\x7b" ++ (if n < 0 then "" else "+") ++ toString n ++ "\x7d"
  | named name => "\\k<" ++ String.ofList name ++ ">"

end Reference

/-- The leaves of a pattern that stand for one character or one place. -/
inductive Atom where
  /-- A cluster that matches itself. -/
  | char (text : Text)
  /-- A scalar given by an escape. -/
  | scalar (c : Char)
  | any
  | cls (cls : CharClass)
  /-- A property that is not known. -/
  | property (name : Text) (inverted : Bool)
  | anchor (a : Anchor)
  | backreference (r : Reference)
  deriving DecidableEq, Repr

namespace Atom

/-- The text that the atom matches, if it matches exactly one character. -/
def singleCharacter? : Atom → Option Text
  | char text => some text
  | scalar c => some [c]
  | _ => none

end Atom

/-! ## Bracketed classes -/

/-- What stands between the brackets of a custom class. -/
inductive ClassMember where
  | atom (a : Atom)
  | range (low high : Atom)
  | nested (inverted : Bool) (members : List ClassMember)
  | posix (name : Text) (inverted : Bool)
  | quote (text : Text)

/-! ## Repetition -/

/-- How often a part repeats, as written. -/
inductive Amount where
  | zeroOrMore
  | oneOrMore
  | zeroOrOne
  | exactly (n : Nat)
  | atLeast (n : Nat)
  | atMost (m : Nat)
  | between (n m : Nat)
  deriving DecidableEq, Repr

namespace Amount

/-- The smallest number of repetitions. -/
def low : Amount → Nat
  | zeroOrMore | zeroOrOne | atMost _ => 0
  | oneOrMore => 1
  | exactly n | atLeast n | between n _ => n

/-- The largest number of repetitions, if there is one. -/
def high? : Amount → Option Nat
  | zeroOrMore | oneOrMore | atLeast _ => none
  | zeroOrOne => some 1
  | exactly n => some n
  | atMost m | between _ m => some m

/-- How the amount is written. -/
def spelling : Amount → String
  | zeroOrMore => "*"
  | oneOrMore => "+"
  | zeroOrOne => "?"
  | exactly n => "\x7b" ++ toString n ++ "\x7d"
  | atLeast n => "\x7b" ++ toString n ++ ",\x7d"
  | atMost m => "\x7b," ++ toString m ++ "\x7d"
  | between n m => "\x7b" ++ toString n ++ "," ++ toString m ++ "\x7d"

/-- An amount that leaves nothing to repeat: at most zero times, or bounds that cross. -/
def isDegenerate (amount : Amount) : Bool :=
  match amount.high? with
  | none => false
  | some high => high == 0 || high < amount.low

end Amount

/-- Which number of repetitions is tried first. -/
inductive Greed where
  /-- As many as possible; fewer on the way back. -/
  | eager
  /-- As few as possible; more on the way back. -/
  | reluctant
  /-- As many as possible, and never fewer. -/
  | possessive
  deriving DecidableEq, Repr

namespace Greed

/-- What is written behind the amount. -/
def spelling : Greed → String
  | eager => ""
  | reluctant => "?"
  | possessive => "+"

end Greed

/-! ## Transforms -/

/-- The identity of a function from texts to texts. What the function does stays open. -/
structure FunctionId where
  index : Nat
  deriving DecidableEq, Repr

/-- What is to become of a matched text. A transform is shown by its name, but two of them are the
same only if their functions are the same as well. -/
structure Transform where
  name : Text
  function : FunctionId
  deriving DecidableEq, Repr

/-! ## The tree -/

/-- A pattern. -/
inductive Pattern where
  /-- The branches are tried in order. -/
  | alternation (branches : List Pattern)
  /-- The items match one after the other. -/
  | concatenation (items : List Pattern)
  | group (kind : GroupKind) (body : Pattern)
  /-- A group whose matched text is handed to a transform. -/
  | transformed (transform : Transform) (kind : GroupKind) (body : Pattern)
  | repetition (amount : Amount) (greed : Greed) (body : Pattern)
  /-- A text that matches itself. -/
  | quote (text : Text)
  /-- A comment, or white space without meaning. -/
  | trivia (text : Text)
  | atom (a : Atom)
  /-- A built-in class with the level it is tested at, once a level has been chosen. -/
  | leveled (cls : CharClass) (level : Option MatchLevel)
  | custom (inverted : Bool) (members : List ClassMember)
  | empty

namespace Pattern

/-- The alternation of the branches; without any it is empty. -/
def ofBranches : List Pattern → Pattern
  | [] => empty
  | branches => alternation branches

/-- The sequence of the items; a single item stands for itself, and none is empty. -/
def ofItems : List Pattern → Pattern
  | [] => empty
  | [item] => item
  | items => concatenation items

end Pattern

end GraphemeRegex
