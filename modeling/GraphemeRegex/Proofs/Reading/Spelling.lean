import GraphemeRegex.Pattern.Basic
import GraphemeRegex.Proofs.Reading.Digits

/-! # Spelling — how trees are written

A tree is written by writing its parts one behind the other. Some trees are written like others, and
some cannot be written at all; the canonical ones are those that can be told from their spelling.

* `Pattern.spell`: how a tree is written.
* `Pattern.IsCanonical`: the trees that can be told from their spelling.
* `Pattern.IsCanonical.printable`: their spelling is printable ASCII.
-/

namespace GraphemeRegex

/-! ## Leaves -/

/-- How an atom is written. -/
def Atom.spell : Atom → Text
  | char text => text
  | scalar c => ['\\', 'u', '\x7b'] ++ Radix.hexDigits c.toNat ++ ['\x7d']
  | any => ['.']
  | cls family => family.spelling.toList
  | property name inverted =>
    ['\\', if inverted then 'P' else 'p', '\x7b'] ++ name ++ ['\x7d']
  | anchor a => a.spelling.toList
  | backreference r => r.spelling.toList

/-- The characters that do not stand for themselves. -/
def specialCharacters : Text :=
  ['\\', '|', '(', ')', '[', '.', '^', '$', '*', '+', '?', '\x7b']

/-- Whether the class is one that an escape stands for. -/
def CharClass.isEscaped (cls : CharClass) : Bool :=
  match cls.kind with
  | .anyScalar | .hexDigit => false
  | .anyCluster => !cls.inverted
  | _ => true

/-- Every class that has an escape begins with a backslash. -/
theorem CharClass.head?_spelling {cls : CharClass} (h : cls.isEscaped = true) :
    cls.spelling.toList.head? = some '\\' := by
  obtain ⟨kind, inverted⟩ := cls
  cases kind with
  | property p => cases p <;> cases inverted <;> decide
  | anyScalar | hexDigit => cases h
  | anyCluster =>
    cases inverted with
    | true => cases h
    | false => decide
  | _ => cases inverted <;> decide

/-- Whether the atom can be told from its spelling. -/
def Atom.isReadable : Atom → Bool
  | char [c] => Text.isPrintable c && !specialCharacters.contains c
  | char _ => false
  | scalar _ | any | anchor _ => true
  | cls family => family.isEscaped
  | property _ _ | backreference _ => false

/-! ## Groups -/

namespace MatchOption

/-- Whether each option of a list can be told from the letters of the list. -/
def areApart : List MatchOption → Bool
  | a :: b :: rest =>
    -- two letters would be taken for one option
    !(a == extended && (b == extended || b == extraExtended)) && areApart (b :: rest)
  | _ => true

end MatchOption

/-- Whether a change of options can be told from its spelling. A choice of segments is not removed,
nothing is removed behind a caret, and there is something to change. -/
def OptionSequence.isReadable (change : OptionSequence) : Bool :=
  MatchOption.areApart change.adding && MatchOption.areApart change.removing &&
    change.removing.all (!·.isSegmentation) &&
    (if change.caret then change.removing.isEmpty
      else !(change.adding.isEmpty && change.removing.isEmpty))

namespace GroupKind

/-- What is written in front of the body of a group. -/
def opener : GroupKind → Text
  | capture => ['(']
  | named name => ['(', '?', '<'] ++ name ++ ['>']
  | nonCapture => ['(', '?', ':']
  | branchReset => ['(', '?', '|']
  | atomic => ['(', '?', '>']
  | lookahead => ['(', '?', '=']
  | negativeLookahead => ['(', '?', '!']
  | nonAtomicLookahead => ['(', '?', '*']
  | lookbehind => ['(', '?', '<', '=']
  | negativeLookbehind => ['(', '?', '<', '!']
  | nonAtomicLookbehind => ['(', '?', '<', '*']
  | scriptRun => ['(', '*', 's', 'r', ':']
  | atomicScriptRun => ['(', '*', 'a', 's', 'r', ':']
  | options change implicit =>
    ['(', '?'] ++ change.spelling.toList ++ [if implicit then ')' else ':']

/-- What is written behind the body of a group. -/
def closer (kind : GroupKind) : Text :=
  if kind.isImplicit then [] else [')']

/-- Whether the kind can be told from its spelling. -/
def isReadable : GroupKind → Bool
  | named name => !name.isEmpty && name.all isAsciiName
  | options change _ => change.isReadable
  | _ => true

end GroupKind

/-- A caret if there is one, then what is added, then what is removed behind a hyphen. -/
theorem OptionSequence.toList_spelling (change : OptionSequence) : change.spelling.toList =
    (if change.caret then ['^'] else []) ++ change.adding.flatMap (·.spelling.toList) ++
      (if change.removing.isEmpty then []
        else '-' :: change.removing.flatMap (·.spelling.toList)) := by
  unfold spelling
  cases change.caret <;> cases change.removing <;>
    simp [String.toList_join, List.flatMap_map]

/-! ## Amounts -/

namespace Amount

/-- Whether the numbers of the amount have 32 bits. -/
def isReadable : Amount → Bool
  | zeroOrMore | oneOrMore | zeroOrOne => true
  | exactly n | atLeast n | atMost n => n < 0x100000000
  | between n m => n < 0x100000000 && m < 0x100000000

/-- Whether the amount is written like the mark behind an amount. -/
def isMark (amount : Amount) : Bool :=
  amount == oneOrMore || amount == zeroOrOne

theorem toList_spelling (amount : Amount) : amount.spelling.toList = match amount with
  | zeroOrMore => ['*']
  | oneOrMore => ['+']
  | zeroOrOne => ['?']
  | exactly n => '\x7b' :: (Nat.toDigits 10 n ++ ['\x7d'])
  | atLeast n => '\x7b' :: (Nat.toDigits 10 n ++ [',', '\x7d'])
  | atMost m => '\x7b' :: ',' :: (Nat.toDigits 10 m ++ ['\x7d'])
  | between n m => '\x7b' :: (Nat.toDigits 10 n ++ ',' :: (Nat.toDigits 10 m ++ ['\x7d'])) := by
  cases amount <;> simp [spelling]

end Amount

/-! ## Trees -/

namespace Pattern

mutual

/-- How a tree is written. Bracketed classes are left out. -/
def spell : Pattern → Text
  | alternation branches => spellBranches branches
  | concatenation items => spellAll items
  | group kind body | transformed _ kind body => kind.opener ++ spell body ++ kind.closer
  | repetition amount greed body =>
    spell body ++ (amount.spelling.toList ++ greed.spelling.toList)
  | quote text => ['\\', 'Q'] ++ text ++ ['\\', 'E']
  | trivia text => ['(', '?', '#'] ++ text ++ [')']
  | atom a => a.spell
  | leveled cls _ => cls.spelling.toList
  | custom _ _ | empty => []

/-- How trees are written one behind the other. -/
def spellAll : List Pattern → Text
  | [] => []
  | p :: ps => spell p ++ spellAll ps

/-- How trees are written with a bar between any two. -/
def spellBranches : List Pattern → Text
  | [] => []
  | [p] => spell p
  | p :: q :: ps => spell p ++ '|' :: spellBranches (q :: ps)

end

/-- Whether the tree is a repetition that ends with its amount. -/
def isEager : Pattern → Bool
  | repetition _ .eager _ => true
  | _ => false

mutual

/-- The trees that a quantifier may follow. -/
inductive IsItem : Pattern → Prop where
  | atom {a : Atom} (readable : a.isReadable = true) : IsItem (.atom a)
  | trivia {text : Text} (printable : text.Printable) (closed : ')' ∉ text) :
    IsItem (.trivia text)
  | quote {text : Text} (printable : text.Printable) (closed : ¬ ['\\', 'E'] <:+: text) :
    IsItem (.quote text)
  | group {kind : GroupKind} {body : Pattern} (explicit : kind.isImplicit = false)
    (readable : kind.isReadable = true) (canonical : IsCanonical body) :
    IsItem (.group kind body)
  | repetition {amount : Amount} {greed : Greed} {body : Pattern}
    (readable : amount.isReadable = true)
    (apart : body.isEager = true → amount.isMark = false) (item : IsItem body) :
    IsItem (.repetition amount greed body)

/-- The items of a sequence. A scope of options takes in all that follows it. -/
inductive IsRow : List Pattern → Prop where
  | nil : IsRow []
  | cons {p : Pattern} {ps : List Pattern} (item : IsItem p) (row : IsRow ps) : IsRow (p :: ps)
  | scope {change : OptionSequence} {ps : List Pattern} (readable : change.isReadable = true)
    (row : IsRow ps) : IsRow [.group (.options change true) (.ofItems ps)]

/-- The trees that can be told from their spelling: a sequence, or an alternation of at least two. A
sequence is empty, a single item, or a concatenation of at least two. -/
inductive IsCanonical : Pattern → Prop where
  | sequence {ps : List Pattern} (row : IsRow ps) : IsCanonical (.ofItems ps)
  | alternation {rows : List (List Pattern)} (several : 2 ≤ rows.length)
    (each : ∀ ps ∈ rows, IsRow ps) : IsCanonical (.alternation (rows.map .ofItems))

end

/-! ## Sequences -/

/-- One item is spelled like a sequence of one. -/
@[simp] theorem spell_ofItems (ps : List Pattern) : (ofItems ps).spell = spellAll ps := by
  match ps with
  | [] => rfl
  | [p] => exact (List.append_nil _).symm
  | p :: q :: ps => rfl

end Pattern

/-! ## Printable spellings -/

open Text (Printable isPrintable)

/-- Readable atoms are written in printable ASCII: the others stand for clusters that need not
be. -/
theorem Atom.printable_spell {a : Atom} (h : a.isReadable = true) : a.spell.Printable := by
  cases a with
  | char text =>
    match text, h with
    | [c], h =>
      rw [isReadable, Bool.and_eq_true] at h
      intro d mem
      rw [List.mem_singleton.1 mem]
      exact h.1
  | scalar c =>
    have digits : Printable (Radix.hexDigits c.toNat) := by
      intro d mem
      exact Radix.of_mem_hexDigits isPrintable mem (by decide)
    have opening : Printable ['\\', 'u', '\x7b'] := by decide
    exact (opening.append digits).append (by decide)
  | any => decide
  | cls family =>
    -- all classes are tried
    obtain ⟨kind, inverted⟩ := family
    cases kind with
    | property p => cases p <;> cases inverted <;> decide
    | _ => cases inverted <;> decide
  | anchor a => cases a <;> decide
  | property _ _ | backreference _ => cases h

/-- The letters of options are printable, readable or not. -/
theorem MatchOption.printable_spelling (options : List MatchOption) :
    Printable (options.flatMap (·.spelling.toList)) := by
  intro c mem
  obtain ⟨option, _, mem⟩ := List.mem_flatMap.1 mem
  have each : Printable option.spelling.toList := by cases option <;> decide
  exact each c mem

/-- What opens a readable group; a name in it is an ASCII one. -/
theorem GroupKind.printable_opener {kind : GroupKind} (h : kind.isReadable = true) :
    kind.opener.Printable := by
  cases kind with
  | named name =>
    rw [isReadable, Bool.and_eq_true, List.all_eq_true] at h
    have letters : Printable name := fun c mem => Text.isPrintable_of_isAsciiName (h.2 c mem)
    have opening : Printable ['(', '?', '<'] := by decide
    exact (opening.append letters).append (by decide)
  | options change implicit =>
    have opening : Printable ['(', '?'] := by decide
    -- caret, letters, a hyphen with letters, and the end
    have caret : Printable (if change.caret then ['^'] else []) := by
      cases change.caret <;> decide
    have removed : Printable (if change.removing.isEmpty then []
        else '-' :: change.removing.flatMap (·.spelling.toList)) := by
      split
      · exact .nil
      · have hyphen : Printable ['-'] := by decide
        exact hyphen.append (MatchOption.printable_spelling _)
    have last : Printable [if implicit then ')' else ':'] := by cases implicit <;> decide
    rw [opener, OptionSequence.toList_spelling]
    exact (opening.append ((caret.append (MatchOption.printable_spelling _)).append removed)).append
      last
  | _ => decide

/-- A group ends with a parenthesis or with nothing. -/
theorem GroupKind.printable_closer (kind : GroupKind) : kind.closer.Printable := by
  unfold closer
  split <;> decide

/-- Amounts are signs and digits. -/
theorem Amount.printable_spelling (amount : Amount) : Printable amount.spelling.toList := by
  have digits (n : Nat) : Printable (Nat.toDigits 10 n) := by
    intro c mem
    obtain ⟨d, small, rfl⟩ := exists_digit_of_mem_toDigits (by decide) mem
    have all : ∀ d < 10, isPrintable (Nat.digitChar d) = true := by decide
    exact all d small
  have opening : Printable ['\x7b'] := by decide
  have comma : Printable [','] := by decide
  have closing : Printable ['\x7d'] := by decide
  -- each amount with numbers is made of these
  rw [toList_spelling]
  cases amount with
  | zeroOrMore | oneOrMore | zeroOrOne => decide
  | exactly n => exact opening.append ((digits n).append closing)
  | atLeast n => exact opening.append ((digits n).append (comma.append closing))
  | atMost m => exact opening.append (comma.append ((digits m).append closing))
  | between n m =>
    exact opening.append ((digits n).append (comma.append ((digits m).append closing)))

namespace Pattern

/-- Rows are joined by bars. -/
theorem printable_spellBranches {rows : List (List Pattern)}
    (h : ∀ ps ∈ rows, (spellAll ps).Printable) : (spellBranches (rows.map ofItems)).Printable := by
  induction rows with
  | nil => exact .nil
  | cons ps rows ih =>
    have here : (ofItems ps).spell.Printable := by
      rw [spell_ofItems]
      exact h ps List.mem_cons_self
    cases rows with
    | nil => exact here
    | cons qs rows =>
      have later := ih fun ps mem => h ps (List.mem_cons_of_mem _ mem)
      have bar : Printable ['|'] := by decide
      exact here.append (bar.append later)

mutual

/-- The spelling of an item is printable if what it is made of is. -/
theorem IsItem.printable : ∀ {p : Pattern}, p.IsItem → p.spell.Printable
  | _, .atom readable => Atom.printable_spell readable
  | _, .trivia printable _ => by
    have opening : Printable ['(', '?', '#'] := by decide
    exact (opening.append printable).append (by decide)
  | _, .quote printable _ => by
    have opening : Printable ['\\', 'Q'] := by decide
    exact (opening.append printable).append (by decide)
  | _, .group _ readable canonical =>
    ((GroupKind.printable_opener readable).append canonical.printable).append
      (GroupKind.printable_closer _)
  | _, @IsItem.repetition amount greed body _ _ item => by
    have mark : Printable greed.spelling.toList := by cases greed <;> decide
    exact item.printable.append (amount.printable_spelling.append mark)

theorem IsRow.printable : ∀ {ps : List Pattern}, IsRow ps → (spellAll ps).Printable
  | _, .nil => .nil
  | _, .cons item row => item.printable.append row.printable
  | _, @IsRow.scope change ps readable row => by
    have opening : (GroupKind.options change true).opener.Printable :=
      GroupKind.printable_opener readable
    have inner : (ofItems ps).spell.Printable := by
      rw [spell_ofItems]
      exact row.printable
    exact ((opening.append inner).append .nil).append .nil

/-- The spelling of a canonical tree is printable ASCII. -/
theorem IsCanonical.printable : ∀ {t : Pattern}, t.IsCanonical → t.spell.Printable
  | _, .sequence row => by
    rw [spell_ofItems]
    exact row.printable
  | _, @IsCanonical.alternation rows _ each => by
    have all : ∀ ps ∈ rows, (spellAll ps).Printable := fun ps mem => (each ps mem).printable
    exact printable_spellBranches all

end

end Pattern

end GraphemeRegex
