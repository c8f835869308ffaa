import GraphemeRegex.Text.Basic

/-! # Groups — what a pair of parentheses asks for

A group captures, scopes, looks around or changes the options under which its body is read.
`GroupKind` names the kinds, `OptionSequence` the lists of option letters.
-/

namespace GraphemeRegex

/-! ## Options -/

/-- An option that a pattern switches on or off. -/
inductive MatchOption where
  | caseInsensitive
  | duplicateNames
  | multiline
  | namedCapturesOnly
  | singleLine
  | reluctantByDefault
  | extended
  | extraExtended
  | unicodeWordBoundaries
  | asciiDigit
  | asciiPosix
  | asciiSpace
  | asciiWord
  | graphemeSegments
  | wordSegments
  deriving DecidableEq, Repr

namespace MatchOption

/-- How the option is written. -/
def spelling : MatchOption → String
  | caseInsensitive => "i"
  | duplicateNames => "J"
  | multiline => "m"
  | namedCapturesOnly => "n"
  | singleLine => "s"
  | reluctantByDefault => "U"
  | extended => "x"
  | extraExtended => "xx"
  | unicodeWordBoundaries => "w"
  | asciiDigit => "D"
  | asciiPosix => "P"
  | asciiSpace => "S"
  | asciiWord => "W"
  | graphemeSegments => "y\x7bg\x7d"
  | wordSegments => "y\x7bw\x7d"

/-- The option that a letter alone stands for; `x` and `y` need a look at what follows them. -/
def ofLetter? : Char → Option MatchOption
  | 'i' => some caseInsensitive
  | 'J' => some duplicateNames
  | 'm' => some multiline
  | 'n' => some namedCapturesOnly
  | 's' => some singleLine
  | 'U' => some reluctantByDefault
  | 'w' => some unicodeWordBoundaries
  | 'D' => some asciiDigit
  | 'P' => some asciiPosix
  | 'S' => some asciiSpace
  | 'W' => some asciiWord
  | _ => none

/-- Whether the option chooses how a text is segmented; such an option can only be replaced. -/
def isSegmentation : MatchOption → Bool
  | graphemeSegments | wordSegments => true
  | _ => false

end MatchOption

/-- A change of options: which are added and which removed. A caret resets all of them first. -/
structure OptionSequence where
  caret : Bool
  adding : List MatchOption
  removing : List MatchOption
  deriving DecidableEq, Repr

namespace OptionSequence

/-- How the change is written. -/
def spelling (options : OptionSequence) : String :=
  (if options.caret then "^" else "") ++
    String.join (options.adding.map MatchOption.spelling) ++
    (if options.removing.isEmpty then ""
      else "-" ++ String.join (options.removing.map MatchOption.spelling))

end OptionSequence

/-! ## Kinds of groups -/

/-- What a group does. -/
inductive GroupKind where
  | capture
  | named (name : Text)
  | nonCapture
  | branchReset
  | atomic
  | lookahead
  | negativeLookahead
  | nonAtomicLookahead
  | lookbehind
  | negativeLookbehind
  | nonAtomicLookbehind
  | scriptRun
  | atomicScriptRun
  /-- A change of options. An implicit scope runs to the end of the enclosing sequence and has no
  parenthesis of its own. -/
  | options (change : OptionSequence) (implicit : Bool)
  deriving DecidableEq, Repr

namespace GroupKind

/-- Whether the text matched by the body is remembered. -/
def isCapturing : GroupKind → Bool
  | capture | named _ => true
  | _ => false

/-- Whether the group runs to the end of the enclosing sequence. -/
def isImplicit : GroupKind → Bool
  | options _ implicit => implicit
  | _ => false

/-- The name of the kind in outlines. -/
def tag : GroupKind → String
  | capture => "capture"
  | named name => "capture<" ++ String.ofList name ++ ">"
  | nonCapture => "nonCapture"
  | branchReset => "nonCaptureReset"
  | atomic => "atomicNonCapturing"
  | lookahead => "lookahead"
  | negativeLookahead => "negativeLookahead"
  | nonAtomicLookahead => "nonAtomicLookahead"
  | lookbehind => "lookbehind"
  | negativeLookbehind => "negativeLookbehind"
  | nonAtomicLookbehind => "nonAtomicLookbehind"
  | scriptRun => "scriptRun"
  | atomicScriptRun => "atomicScriptRun"
  | options change implicit =>
    "changeMatchingOptions<" ++ change.spelling ++ ", " ++ toString implicit ++ ">"

end GroupKind

end GraphemeRegex
