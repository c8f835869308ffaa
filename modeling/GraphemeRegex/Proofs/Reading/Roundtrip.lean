import GraphemeRegex.Proofs.Reading.Nesting
import GraphemeRegex.Proofs.Reading.Openings
import GraphemeRegex.Proofs.Reading.Operands

/-! # Round trips — parsing undoes spelling

What is read from the spelling of an item is the item, whatever was read before it, and up to what
stands behind it. So the spelling of a whole canonical tree is read as that tree.

* `Reading.Leads`: reading goes from one place in a text to another.
* `Pattern.IsItem.leads`, `Pattern.IsRow.leads`, `Pattern.IsCanonical.leads`: items, sequences and
  bodies of groups are read back.
* `Pattern.parse_spell_iff`: canonical trees are read back.
-/

namespace GraphemeRegex

open Input

/-! ## Reading on -/

namespace Reading

variable {limit o : Nat} {r r' r'' : Reading} {text more rest : Text} {c : Char}

/-- Reading goes on from one reading and one text to another, wherever the text stands and as long
as there is fuel. -/
def Leads (limit : Nat) (r : Reading) (text : Text) (r' : Reading) (more : Text) : Prop :=
  ∀ o fuel, text.length ≤ fuel → ∃ o' fuel', more.length ≤ fuel' ∧
    run .traditional limit fuel r (plain o text) = run .traditional limit fuel' r' (plain o' more)

theorem Leads.refl (limit : Nat) (r : Reading) (text : Text) : r.Leads limit text r text :=
  fun o fuel enough => ⟨o, fuel, enough, rfl⟩

/-- Reading on from where reading has got to. -/
theorem Leads.trans (h : r.Leads limit text r' more) (h' : r'.Leads limit more r'' rest) :
    r.Leads limit text r'' rest := by
  intro o fuel enough
  obtain ⟨o₁, fuel₁, enough₁, first⟩ := h o fuel enough
  obtain ⟨o₂, fuel₂, enough₂, second⟩ := h' o₁ fuel₁ enough₁
  exact ⟨o₂, fuel₂, enough₂, first.trans second⟩

/-- Reading goes on behind a step. -/
theorem leads_of_step
    (h : ∀ o, ∃ r₁ o₁ text₁, step .traditional limit r [c] (plain o (c :: text)) =
      .ok (r₁, plain o₁ text₁) ∧ text₁.length ≤ text.length ∧ r₁.Leads limit text₁ r' more) :
    r.Leads limit (c :: text) r' more := by
  intro o fuel enough
  -- the step takes one from the fuel, and at least as much from the text
  obtain ⟨fuel, rfl⟩ : ∃ k, fuel = k + 1 := ⟨fuel - 1, by
    rw [List.length_cons] at enough
    omega⟩
  obtain ⟨r₁, o₁, text₁, stepped, shorter, later⟩ := h o
  have room : text₁.length ≤ fuel := Nat.le_trans shorter (Nat.le_of_succ_le_succ enough)
  obtain ⟨o', fuel', enough', same⟩ := later o₁ fuel room
  refine ⟨o', fuel', enough', ?_⟩
  rw [run, rest_plain_cons, ← same]
  simp only [stepped, bind, Except.bind]

/-- What ends neither a branch nor a group is an amount or an operand. -/
theorem step_of_ne (bar : c ≠ '|') (closing : c ≠ ')') (i : Input) :
    step .traditional limit r [c] i = match Quantifier.readAmount? i with
      | some (amount, next) => r.quantify i amount next
      | none => readOperand .traditional limit r [c] i := by
  have noBar : ([c] : Text) ≠ ['|'] := fun same => bar (List.singleton_inj.1 same)
  have noClosing : ([c] : Text) ≠ [')'] := fun same => closing (List.singleton_inj.1 same)
  rw [step, if_neg noBar, if_neg noClosing]
  rfl

/-! ## Operands -/

/-- Whether an operand may begin with a character. -/
def isOperandStart (c : Char) : Bool :=
  !(['|', ')', '*', '+', '?', '\x7b'] : Text).contains c

/-- These characters end something or repeat it. -/
theorem ne_of_isOperandStart (starts : isOperandStart c = true) :
    c ≠ '|' ∧ c ≠ ')' ∧ c ≠ '*' ∧ c ≠ '+' ∧ c ≠ '?' ∧ c ≠ '\x7b' := by
  simpa [isOperandStart] using starts

/-- A step that begins an operand is left to what reads operands. -/
theorem leads_of_operand (starts : isOperandStart c = true)
    (read : ∀ o, ∃ r₁ o₁ text₁, readOperand .traditional limit r [c] (plain o (c :: text)) =
      .ok (r₁, plain o₁ text₁) ∧ text₁.length ≤ text.length ∧ r₁.Leads limit text₁ r' more) :
    r.Leads limit (c :: text) r' more := by
  obtain ⟨bar, closing, marks⟩ := ne_of_isOperandStart starts
  apply leads_of_step
  intro o
  rw [step_of_ne bar closing, Quantifier.readAmount?_plain_none o text marks]
  exact read o

/-- A backslash begins an escape. -/
theorem readOperand_escape (i : Input) :
    readOperand .traditional limit r ['\\'] i = (Escape.read false i).bind fun found =>
      match found with
      | (.atom a, next) => .ok (r.operand (.atom a), next)
      | (.quote text, next) => .ok (r.operand (.quote text), next) := rfl

/-- A parenthesis begins a group. -/
theorem readOperand_group (i : Input) :
    readOperand .traditional limit r ['('] i = openGroup limit r i := rfl

/-- A character that does not stand for something else is read as it is. -/
theorem readOperand_char (ordinary : c ∉ specialCharacters) :
    readOperand .traditional limit r [c] (plain o (c :: text)) =
      .ok (r.operand (.atom (.char [c])), plain (o + c.utf8Size) text) := by
  simp only [specialCharacters, List.mem_cons, List.not_mem_nil, or_false, not_or] at ordinary
  simp [readOperand, ordinary, Dialect.traditional]
  rfl

/-- Characters without a meaning of their own are operands. -/
theorem isOperandStart_of_ordinary (ordinary : c ∉ specialCharacters) :
    isOperandStart c = true := by
  simp only [specialCharacters, List.mem_cons, List.not_mem_nil, or_false, not_or] at ordinary
  simp [isOperandStart, ordinary]

/-- A character that is spelled as it is has no meaning of its own. -/
theorem ordinary_of_isReadable (readable : (Atom.char [c]).isReadable = true) :
    c ∉ specialCharacters := by
  simpa [Atom.isReadable] using (Bool.and_eq_true_iff.1 readable).2

/-- An atom is read back. -/
theorem leads_atom {a : Atom} (readable : a.isReadable = true) :
    r.Leads limit (a.spell ++ more) (r.operand (.atom a)) more := by
  by_cases escaped : a.spell.head? = some '\\'
  · -- an escape is read back by its own function
    obtain ⟨rest, split⟩ := List.head?_eq_some_iff.1 escaped
    rw [split, List.cons_append]
    apply leads_of_operand rfl
    intro o
    obtain ⟨o', found⟩ := Escape.read_plain o more readable escaped
    rw [split, List.cons_append] at found
    refine ⟨_, o', more, ?_, (List.suffix_append rest _).length_le, .refl _ _ _⟩
    rw [readOperand_escape, found]
    rfl
  · cases a with
    -- the others are one character
    | char text =>
      match text, readable with
      | [c], readable =>
        have ordinary := ordinary_of_isReadable readable
        apply leads_of_operand (isOperandStart_of_ordinary ordinary)
        intro o
        exact ⟨_, _, _, readOperand_char ordinary, Nat.le_refl _, .refl _ _ _⟩
    | any => exact leads_of_operand rfl fun o => ⟨_, _, _, rfl, Nat.le_refl _, .refl _ _ _⟩
    | anchor a =>
      cases a with
      | startOfLine | endOfLine =>
        exact leads_of_operand rfl fun o => ⟨_, _, _, rfl, Nat.le_refl _, .refl _ _ _⟩
      | _ => exact absurd rfl escaped
    | scalar c => exact absurd rfl escaped
    | cls family => exact absurd (CharClass.head?_spelling readable) escaped
    | property _ _ | backreference _ => cases readable

/-- A quote is read back. -/
theorem leads_quote {text : Text} (closed : ¬ ['\\', 'E'] <:+: text) :
    r.Leads limit ((Pattern.quote text).spell ++ more) (r.operand (.quote text)) more := by
  have spelling : (Pattern.quote text).spell ++ more =
      '\\' :: 'Q' :: (text ++ '\\' :: 'E' :: more) := by
    simp [Pattern.spell]
  rw [spelling]
  apply leads_of_operand rfl
  intro o
  obtain ⟨o', found⟩ := Escape.read_plain_quote o more closed
  refine ⟨_, o', more, ?_, ?_, .refl _ _ _⟩
  · rw [readOperand_escape, found]
    rfl
  · simp only [List.length_cons, List.length_append]
    omega

/-- A comment is read back. -/
theorem leads_trivia {text : Text} (closed : ')' ∉ text) :
    r.Leads limit ((Pattern.trivia text).spell ++ more) (r.operand (.trivia text)) more := by
  have spelling : (Pattern.trivia text).spell ++ more =
      '(' :: '?' :: '#' :: (text ++ ')' :: more) := by
    simp [Pattern.spell]
  rw [spelling]
  apply leads_of_operand rfl
  intro o
  obtain ⟨o', found⟩ := Opening.read_plain_comment o more closed
  refine ⟨_, o', more, ?_, ?_, .refl _ _ _⟩
  · rw [readOperand_group, openGroup, found]
    rfl
  · simp only [List.length_cons, List.length_append]
    omega

/-! ## Repetitions -/

/-- The text does not begin like an amount without numbers. -/
def Calm (text : Text) : Prop :=
  ∀ d, text.head? = some d → d ≠ '*' ∧ d ≠ '+' ∧ d ≠ '?'

/-- What begins with another character is calm. -/
theorem calm_cons (other : c ≠ '*' ∧ c ≠ '+' ∧ c ≠ '?') : Calm (c :: text) := by
  intro d head
  cases head
  exact other

/-- Nothing is taken for the mark behind an amount. -/
def Unmarked (text : Text) : Prop :=
  ∀ d, text.head? = some d → d ≠ '?' ∧ d ≠ '+'

/-- Whoever is not taken for an amount is not taken for its mark. -/
theorem Calm.unmarked (h : Calm text) : Unmarked text :=
  fun d head => ⟨(h d head).2.2, (h d head).2.1⟩

/-- An operand is not taken for an amount. -/
theorem calm_of_isOperandStart (starts : isOperandStart c = true) : Calm (c :: text) := by
  obtain ⟨_, _, star, plus, question, _⟩ := ne_of_isOperandStart starts
  exact calm_cons ⟨star, plus, question⟩

/-- An atom begins like an operand. -/
theorem exists_start_atom {a : Atom} (readable : a.isReadable = true) :
    ∃ c rest, a.spell = c :: rest ∧ isOperandStart c = true := by
  cases a with
  | char text =>
    match text, readable with
    | [c], readable =>
      exact ⟨c, [], rfl, isOperandStart_of_ordinary (ordinary_of_isReadable readable)⟩
  | scalar c => exact ⟨_, _, rfl, rfl⟩
  | any => exact ⟨_, _, rfl, rfl⟩
  | cls family =>
    obtain ⟨rest, split⟩ := List.head?_eq_some_iff.1 (CharClass.head?_spelling readable)
    exact ⟨_, rest, split, rfl⟩
  | anchor a => cases a <;> exact ⟨_, _, rfl, rfl⟩
  | property _ _ | backreference _ => cases readable

/-- An amount begins with a mark or with a brace. -/
theorem exists_start_amount (amount : Amount) :
    ∃ c rest, amount.spelling.toList = c :: rest ∧ c ≠ '|' ∧ c ≠ ')' ∧
      (amount.isMark = false → c ≠ '?' ∧ c ≠ '+') := by
  rw [amount.toList_spelling]
  cases amount with
  | oneOrMore | zeroOrOne => exact ⟨_, _, rfl, by decide, by decide, fun apart => by cases apart⟩
  | _ => exact ⟨_, _, rfl, by decide, by decide, fun _ => by decide⟩

/-- An operand can be repeated. -/
theorem quantify_operand (i next : Input) (amount : Amount) (p : Pattern) :
    (r.operand p).quantify i (.ok amount) next =
      .ok (r.operand (.repetition amount (Quantifier.readGreed next).1 p),
        (Quantifier.readGreed next).2) := rfl

/-- A quantifier is read back, and repeats the operand before it. -/
theorem leads_quantify {amount : Amount} {greed : Greed} {p : Pattern}
    (readable : amount.isReadable = true) (calm : greed = .eager → Unmarked more) :
    (r.operand p).Leads limit (amount.spelling.toList ++ (greed.spelling.toList ++ more))
      (r.operand (.repetition amount greed p)) more := by
  obtain ⟨c, rest, split, bar, closing, _⟩ := exists_start_amount amount
  rw [split, List.cons_append]
  apply leads_of_step
  intro o
  obtain ⟨o₁, found⟩ := Quantifier.readAmount?_plain o (greed.spelling.toList ++ more) readable
  rw [split, List.cons_append] at found
  obtain ⟨o₂, mark⟩ := Quantifier.readGreed_plain o₁ calm
  refine ⟨_, o₂, more, ?_, ?_, .refl _ _ _⟩
  · rw [step_of_ne bar closing, found]
    simp only [quantify_operand, mark]
  · simp only [List.length_append]
    omega

/-! ## Groups -/

/-- Every group begins with a parenthesis. -/
theorem exists_opener (kind : GroupKind) : ∃ rest, kind.opener = '(' :: rest := by
  cases kind <;> exact ⟨_, rfl⟩

/-- A group is read back if its body is. -/
theorem leads_group {kind : GroupKind} {body : Text} {t : Pattern}
    (explicit : kind.isImplicit = false) (readable : kind.isReadable = true)
    (room : r.groups.length < limit) (calm : Calm (body ++ ')' :: more))
    (inside : ∀ g : OpenGroup, ∃ b : GroupBody, b.toPattern = t ∧
      Leads limit ⟨.start, g :: r.groups⟩ (body ++ ')' :: more) ⟨b, g :: r.groups⟩ (')' :: more)) :
    r.Leads limit (kind.opener ++ (body ++ ')' :: more)) (r.operand (.group kind t)) more := by
  obtain ⟨rest, split⟩ := exists_opener kind
  rw [split, List.cons_append]
  apply leads_of_operand rfl
  intro o
  obtain ⟨o', found⟩ := Opening.read_plain o explicit readable
    fun _ d head => ⟨(calm d head).2.2, (calm d head).1⟩
  rw [split, List.cons_append] at found
  -- the body is read with the group open, and then the parenthesis
  obtain ⟨b, rfl, read⟩ := inside ⟨o, kind, r.current⟩
  refine ⟨⟨.start, ⟨o, kind, r.current⟩ :: r.groups⟩, o', body ++ ')' :: more, ?_, ?_, ?_⟩
  · rw [readOperand_group, openGroup, found]
    simp only [bind, Except.bind, if_neg (Nat.not_le.2 room)]
    rfl
  · exact (List.suffix_append rest _).length_le
  · apply read.trans
    apply leads_of_step
    intro o
    exact ⟨_, _, _, rfl, Nat.le_refl _, .refl _ _ _⟩

/-- A change of options for the rest of a sequence is read back. -/
theorem leads_scope {change : OptionSequence} (readable : change.isReadable = true) :
    r.Leads limit ((GroupKind.options change true).opener ++ more) (r.push (.scope change))
      more := by
  obtain ⟨rest, split⟩ := exists_opener (.options change true)
  rw [split, List.cons_append]
  apply leads_of_operand rfl
  intro o
  obtain ⟨o', found⟩ := Opening.read_plain_scope o more readable
  rw [split, List.cons_append] at found
  refine ⟨_, o', more, ?_, ?_, .refl _ _ _⟩
  · rw [readOperand_group, openGroup, found]
    rfl
  · exact (List.suffix_append rest _).length_le

/-! ## Sequences and branches -/

/-- The pieces, the latest first, behind those of the current branch. -/
def extend (r : Reading) (pieces : List Piece) : Reading :=
  { r with current := { r.current with pieces := pieces ++ r.current.pieces } }

/-- A piece that is read before others comes behind them in the list. -/
theorem extend_push (r : Reading) (piece : Piece) (pieces : List Piece) :
    (r.push piece).extend pieces = r.extend (pieces ++ [piece]) := by
  simp [extend, push, GroupBody.push]

theorem extend_start (done : List Pattern) (pieces : List Piece) (groups : List OpenGroup) :
    extend ⟨⟨done, []⟩, groups⟩ pieces = ⟨⟨done, pieces⟩, groups⟩ := by
  rw [extend, List.append_nil]

end Reading

/-- Pieces are assembled from the latest on. -/
theorem Piece.assemble_append (pieces front : List Piece) (later : List Pattern) :
    assemble (pieces ++ front) later = assemble front (assemble pieces later) :=
  List.foldl_append

/-- The earliest piece is the first item. -/
theorem Piece.assemble_snoc_node (pieces : List Piece) (p : Pattern) (quantifiable : Bool) :
    assemble (pieces ++ [.node p quantifiable]) [] = p :: assemble pieces [] :=
  assemble_append ..

/-- The earliest piece is a scope, which takes in all items. -/
theorem Piece.assemble_snoc_scope (pieces : List Piece) (change : OptionSequence) :
    assemble (pieces ++ [.scope change]) [] =
      [.group (.options change true) (.ofItems (assemble pieces []))] :=
  assemble_append ..

/-- With branches before, a body is a list of branches. -/
theorem GroupBody.toPattern_of_branches {b : GroupBody} (some : b.branches ≠ []) :
    b.toPattern = .alternation (b.branch :: b.branches).reverse := by
  cases branches : b.branches with
  | nil => exact absurd branches some
  | cons p ps => rw [GroupBody.toPattern, branches]

namespace Pattern

open Reading

variable {limit : Nat}

/-! ### What an item begins with -/

/-- An item does not begin like an amount. -/
theorem IsItem.calm : ∀ {p : Pattern}, p.IsItem → ∀ more, Calm (p.spell ++ more)
  | _, .atom readable, more => by
    obtain ⟨c, rest, split, starts⟩ := exists_start_atom readable
    rw [spell, split]
    exact calm_of_isOperandStart starts
  | _, .trivia _ _, _ => calm_cons (by decide)
  | _, .quote _ _, _ => calm_cons (by decide)
  | _, @IsItem.group kind _ _ _ _, _ => by
    obtain ⟨rest, split⟩ := exists_opener kind
    rw [spell, split]
    exact calm_cons (by decide)
  | _, .repetition _ _ item, more => by
    rw [spell, List.append_assoc]
    exact item.calm _

/-- A sequence does not begin like an amount; if it is empty, what follows decides. -/
theorem IsRow.calm {ps : List Pattern} (row : IsRow ps) {more : Text} (later : Calm more) :
    Calm (spellAll ps ++ more) := by
  cases row with
  | nil => exact later
  | cons item _ =>
    rw [spellAll, List.append_assoc]
    exact item.calm _
  | scope => exact calm_cons (by decide)

/-- The same for a body, whose first branch may be empty. -/
theorem IsCanonical.calm {t : Pattern} (canonical : t.IsCanonical) {more : Text}
    (later : Calm more) : Calm (t.spell ++ more) := by
  cases canonical with
  | sequence row =>
    rw [spell_ofItems]
    exact row.calm later
  | @alternation rows several each =>
    match rows, several, each with
    | ps :: qs :: rows, _, each =>
      have first : IsRow ps := each ps List.mem_cons_self
      rw [spell, List.map_cons, List.map_cons, spellBranches, List.append_assoc, spell_ofItems]
      exact first.calm (calm_cons (by decide))

/-! ### Branches -/

/-- The items of a sequence are read back, if there is room for their groups. -/
def RowLeads (limit : Nat) (ps : List Pattern) : Prop :=
  ∀ (r : Reading) (more : Text), r.groups.length + depthAll ps ≤ limit → Calm more →
    ∃ pieces, Piece.assemble pieces [] = ps ∧
      r.Leads limit (spellAll ps ++ more) (r.extend pieces) more

/-- At the start of a branch, the pieces that are read are those of the whole branch. -/
theorem RowLeads.branch {ps : List Pattern} (h : RowLeads limit ps) {groups : List OpenGroup}
    (room : groups.length + depthAll ps ≤ limit) (done : List Pattern) {more : Text}
    (calm : Calm more) :
    ∃ pieces, Piece.assemble pieces [] = ps ∧
      Leads limit ⟨⟨done, []⟩, groups⟩ (spellAll ps ++ more) ⟨⟨done, pieces⟩, groups⟩ more := by
  obtain ⟨pieces, made, read⟩ := h ⟨⟨done, []⟩, groups⟩ more room calm
  rw [extend_start] at read
  exact ⟨pieces, made, read⟩

/-- Branches are read back one after the other, behind those that are `done`, if each of them is. -/
theorem leads_branches {groups : List OpenGroup} {more : Text} (calm : Calm more)
    {rows : List (List Pattern)} (some : rows ≠ []) (each : ∀ ps ∈ rows, RowLeads limit ps)
    (room : ∀ ps ∈ rows, groups.length + depthAll ps ≤ limit) (done : List Pattern) :
    ∃ b : GroupBody, (b.branch :: b.branches).reverse = done.reverse ++ rows.map ofItems ∧
      Leads limit ⟨⟨done, []⟩, groups⟩ (spellBranches (rows.map ofItems) ++ more) ⟨b, groups⟩
        more := by
  -- the branch that is being read moves to those that are done at each bar
  induction rows generalizing done with
  | nil => exact absurd rfl some
  | cons ps rows ih =>
    have first := each ps List.mem_cons_self
    have fits := room ps List.mem_cons_self
    cases rows with
    | nil =>
      obtain ⟨pieces, rfl, read⟩ := first.branch fits done calm
      refine ⟨⟨done, pieces⟩, List.reverse_cons, ?_⟩
      rw [List.map_cons, List.map_nil, spellBranches, spell_ofItems]
      exact read
    | cons qs rows =>
      have bar : Calm ('|' :: (spellBranches ((qs :: rows).map ofItems) ++ more)) :=
        calm_cons (by decide)
      obtain ⟨pieces, rfl, read⟩ := first.branch fits done bar
      obtain ⟨b, branches, later⟩ := ih (List.cons_ne_nil _ _)
        (fun ps mem => each ps (List.mem_cons_of_mem _ mem))
        (fun ps mem => room ps (List.mem_cons_of_mem _ mem))
        (ofItems (Piece.assemble pieces []) :: done)
      refine ⟨b, ?_, ?_⟩
      · rw [branches, List.reverse_cons, List.append_assoc, List.singleton_append, ← List.map_cons]
      · rw [List.map_cons, List.map_cons, spellBranches, List.append_assoc, spell_ofItems]
        apply read.trans
        apply leads_of_step
        intro o
        exact ⟨_, _, _, rfl, Nat.le_refl _, later⟩

/-! ### Reading back -/

mutual

/-- An item is read back. -/
theorem IsItem.leads : ∀ {p : Pattern}, p.IsItem → ∀ {r : Reading} {more : Text},
    r.groups.length + p.depth ≤ limit → (p.isEager = true → Unmarked more) →
      r.Leads limit (p.spell ++ more) (r.operand p) more
  | _, .atom readable, _, _, _, _ => leads_atom readable
  | _, .trivia _ closed, _, _, _, _ => leads_trivia closed
  | _, .quote _ closed, _, _, _, _ => leads_quote closed
  | _, @IsItem.group kind body explicit readable canonical, r, more, shallow, _ => by
    have spelling : (group kind body).spell ++ more =
        kind.opener ++ (body.spell ++ ')' :: more) := by
      simp [spell, GroupKind.closer, explicit]
    -- a group is one deeper than its body, and so is reading inside of it
    have deeper : (group kind body).depth = body.depth + 1 := by
      rw [depth, explicit, if_neg Bool.false_ne_true]
    rw [deeper] at shallow
    have closing : Calm (')' :: more) := calm_cons (by decide)
    rw [spelling]
    apply leads_group explicit readable (by omega) (canonical.calm closing)
    intro g
    have room : (g :: r.groups).length + body.depth ≤ limit := by
      rw [List.length_cons]
      omega
    exact canonical.leads room closing
  | _, @IsItem.repetition amount greed body readable apart item, r, more, shallow, calm => by
    rw [spell, List.append_assoc, List.append_assoc]
    -- what follows is not taken for a mark of the amount, and the amount not for a mark of the item
    have marked : greed = .eager → Unmarked more := by
      rintro rfl
      exact calm rfl
    refine (item.leads shallow ?_).trans (leads_quantify readable marked)
    intro eager
    obtain ⟨c, rest, split, _, _, other⟩ := exists_start_amount amount
    rw [split]
    intro d head
    cases head
    exact other (apart eager)

/-- The items of a sequence are read back. -/
theorem IsRow.leads : ∀ {ps : List Pattern}, IsRow ps → RowLeads limit ps
  | _, .nil, _, _, _, _ => ⟨[], rfl, .refl _ _ _⟩
  | _, @IsRow.cons p ps item row, r, more, shallow, calm => by
    rw [depthAll] at shallow
    have room : (r.operand p).groups.length + depthAll ps ≤ limit := by
      show r.groups.length + depthAll ps ≤ limit
      omega
    -- the item becomes the earliest piece, in front of those of the others
    obtain ⟨pieces, rfl, later⟩ := row.leads (r.operand p) more room calm
    refine ⟨pieces ++ [.node p true], Piece.assemble_snoc_node .., ?_⟩
    rw [spellAll, List.append_assoc, ← extend_push]
    refine (item.leads (by omega) ?_).trans later
    intro _
    exact (row.calm calm).unmarked
  | _, @IsRow.scope change ps readable row, r, more, shallow, calm => by
    have spelling : spellAll [group (.options change true) (ofItems ps)] ++ more =
        (GroupKind.options change true).opener ++ (spellAll ps ++ more) := by
      simp [spellAll, spell, GroupKind.closer, GroupKind.isImplicit]
    -- a scope has no depth of its own, and becomes a piece as well
    have same : depthAll [group (.options change true) (ofItems ps)] = depthAll ps := by
      simp [depthAll, depth, GroupKind.isImplicit]
    rw [same] at shallow
    obtain ⟨pieces, rfl, later⟩ := row.leads (r.push (.scope change)) more shallow calm
    refine ⟨pieces ++ [.scope change], Piece.assemble_snoc_scope .., ?_⟩
    rw [spelling, ← extend_push]
    exact (leads_scope readable).trans later

/-- The body of a group is read back. -/
theorem IsCanonical.leads : ∀ {t : Pattern}, t.IsCanonical → ∀ {groups : List OpenGroup}
    {more : Text}, groups.length + t.depth ≤ limit → Calm more →
      ∃ b : GroupBody, b.toPattern = t ∧
        Leads limit ⟨.start, groups⟩ (t.spell ++ more) ⟨b, groups⟩ more
  | _, @IsCanonical.sequence ps row, groups, more, shallow, calm => by
    rw [depth_ofItems] at shallow
    rw [spell_ofItems]
    obtain ⟨pieces, rfl, read⟩ := row.leads.branch shallow [] calm
    exact ⟨⟨[], pieces⟩, rfl, read⟩
  | _, @IsCanonical.alternation rows several each, groups, more, shallow, calm => by
    have some : rows ≠ [] := List.ne_nil_of_length_pos (by omega)
    have room : ∀ ps ∈ rows, groups.length + depthAll ps ≤ limit := by
      intro ps mem
      have less : (ofItems ps).depth ≤ depthAll (rows.map ofItems) :=
        depthAll_le_iff.1 (Nat.le_refl _) _ (List.mem_map_of_mem mem)
      rw [depth_ofItems] at less
      rw [depth] at shallow
      omega
    have branch : ∀ ps ∈ rows, RowLeads limit ps := fun ps mem => (each ps mem).leads
    obtain ⟨b, branches, read⟩ := leads_branches calm some branch room []
    have count := congrArg List.length branches
    -- with two branches or more, the body is a list of them
    have more : b.branches ≠ [] := by
      intro none
      rw [none] at count
      simp at count
      omega
    refine ⟨b, ?_, read⟩
    rw [GroupBody.toPattern_of_branches more, branches]
    rfl

end

/-- What is read from the spelling of a canonical tree is the tree itself, unless its groups are
nested too deep for the limit. -/
theorem parse_spell_iff {t : Pattern} (canonical : t.IsCanonical) (limit : Nat) :
    Pattern.parse t.spell .traditional limit = .ok t ↔ t.depth ≤ limit := by
  constructor
  · exact depth_le_of_parse
  · intro shallow
    have room : ([] : List OpenGroup).length + t.depth ≤ limit := by
      rw [List.length_nil, Nat.zero_add]
      exact shallow
    have calm : Calm [] := fun d head => by cases head
    obtain ⟨b, rfl, read⟩ := canonical.leads room calm
    have units : (Input.plain 0 b.toPattern.spell).rest.length = b.toPattern.spell.length :=
      List.length_map _
    rw [List.append_nil] at read
    obtain ⟨o, fuel, _, same⟩ := read 0 _ (Nat.le_refl _)
    rw [Pattern.parse, Input.ofText_eq_plain canonical.printable, units, same]
    -- nothing is left to read
    cases fuel <;> rfl

/-- A named group of two branches, then a scope of options. -/
theorem parse_spell_named_scope :
    Pattern.parse "(?<n>a\x7b2,3\x7d?|\\d)(?i)\\u\x7b41\x7d*".toList .traditional 256 =
      .ok (.concatenation
        [.group (.named ['n']) (.alternation
          [.repetition (.between 2 3) .reluctant (.atom (.char ['a'])),
            .atom (.cls ⟨.digit, false⟩)]),
        .group (.options ⟨false, [.caseInsensitive], []⟩ true)
          (.repetition .zeroOrMore .eager (.atom (.scalar 'A')))]) := by
  have branches : IsCanonical (.alternation [
      .repetition (.between 2 3) .reluctant (.atom (.char ['a'])),
      .atom (.cls ⟨.digit, false⟩)]) := by
    refine @IsCanonical.alternation [[_], [_]] (Nat.le_refl 2)
      (List.forall_mem_cons.2 ⟨?_, List.forall_mem_singleton.2 ?_⟩)
    · exact .cons (.repetition (by decide) (by decide) (.atom (by decide))) .nil
    · exact .cons (.atom (by decide)) .nil
  have scope : IsRow [.group (.options ⟨false, [.caseInsensitive], []⟩ true)
      (.repetition .zeroOrMore .eager (.atom (.scalar 'A')))] := by
    refine @IsRow.scope _ [_] (by decide) (.cons ?_ .nil)
    exact .repetition (by decide) (by decide) (.atom (by decide))
  have named : IsItem (.group (.named ['n']) _) := .group rfl (by decide) branches
  have canonical := IsCanonical.sequence (.cons named scope)
  have parsed := (parse_spell_iff canonical 256).2 (by decide)
  refine Eq.trans ?_ parsed
  exact congrArg (parse · .traditional 256) (by decide +kernel)

end Pattern

end GraphemeRegex
