import GraphemeRegex.Proofs.Program.Spelling

/-! # Listing — what a listing says of its program

The lines of a listing fall into sections. A section ends with an empty line, which no line of its
body is, and a section that is left out has nothing to show. So the sections can be told apart, and
each line can be read back.

* `Program.listingLines`, `Program.toList_listing`: the lines of a listing.
* `Program.sectionLines_append_inj`: where a section ends.
* `Program.listing_eq_iff`: different programs have different listings.
-/

namespace GraphemeRegex

/-! ## Lines with an index -/

section

variable {α β : Type}

/-- Items with their numbers are items with their indices. -/
theorem zipWith_range_length (line : Nat → α → β) (items : List α) :
    (List.range items.length).zipWith line items = items.mapIdx line := by
  apply List.ext_getElem
  · simp
  · intro i _ _
    simp

/-- What holds of each line wherever it stands holds of all lines. -/
theorem forall_mem_mapIdx {line : Nat → α → β} {good : β → Prop} (each : ∀ i a, good (line i a))
    (items : List α) : ∀ b ∈ items.mapIdx line, good b := by
  intro b mem
  rcases List.mem_mapIdx.1 mem with ⟨i, inside, rfl⟩
  exact each i _

/-- Lines that can be read back, each at its place, are read back together. -/
theorem eq_of_mapIdx_eq {line line' : Nat → α → β} {items items' : List α}
    (readable : ∀ i a b, line i a = line' i b → a = b)
    (same : items.mapIdx line = items'.mapIdx line') : items = items' := by
  have lengths := congrArg List.length same
  rw [List.length_mapIdx, List.length_mapIdx] at lengths
  apply List.ext_getElem lengths
  intro i inside inside'
  have here := List.getElem_of_eq same (List.length_mapIdx.symm ▸ inside)
  rw [List.getElem_mapIdx, List.getElem_mapIdx] at here
  exact readable i _ _ here

end

/-- An index in front of a line has digits only. -/
@[simp] theorem legible_paddedIndex (width index : Nat) :
    Text.Legible (paddedIndex width index).toList := by
  have zeros (n : Nat) : Text.Legible (List.replicate n '0') := by
    intro c mem
    rw [List.eq_of_mem_replicate mem]
    decide
  rw [paddedIndex, String.toList_ofList, Text.legible_append]
  exact ⟨zeros _, Text.legible_toDigits index⟩

attribute [ext] StringTable Program

namespace Program

variable {p q : Program}

/-- The lines of an indexed list are those of its items, one behind the other. -/
theorem toList_indexedLines {α : Type} (line : Nat → α → String) (items : List α) :
    (indexedLines line items).toList =
      Text.unlines (items.mapIdx fun i a => (line i a).toList) := by
  have broken : (items.mapIdx fun i a => line i a ++ "\n").map String.toList =
      (items.mapIdx fun i a => (line i a).toList).map (· ++ ['\n']) := by
    simp [List.mapIdx_eq_zipIdx_map]
  rw [indexedLines, zipWith_range_length, String.toList_join, List.flatMap_def, broken,
    Text.unlines, List.flatMap_def]

/-! ## Sections -/

/-- The lines of a section, which is left out if it has nothing to show. -/
def sectionLines (heading : String) (body : List Text) : List Text :=
  if body = [] then [] else heading.toList :: (body ++ [[]])

/-- A section begins with its heading or is left out. -/
theorem head?_sectionLines_append {heading : String} {body rest : List Text} {line : Text}
    (first : (sectionLines heading body ++ rest).head? = some line) :
    line = heading.toList ∨ rest.head? = some line := by
  unfold sectionLines at first
  split at first
  · exact .inr first
  · exact .inl (Option.some.inj first).symm

/-- Where a section ends is seen from the empty line, and that it is left out from what follows. -/
theorem sectionLines_append_inj {heading : String} {body body' rest rest' : List Text}
    (shown : ∀ line ∈ body, line ≠ []) (shown' : ∀ line ∈ body', line ≠ [])
    (other : rest.head? ≠ some heading.toList) (other' : rest'.head? ≠ some heading.toList)
    (same : sectionLines heading body ++ rest = sectionLines heading body' ++ rest') :
    body = body' ∧ rest = rest' := by
  unfold sectionLines at same
  -- a section that is left out on one side only would begin the other side with its heading
  by_cases none : body = []
  · by_cases none' : body' = []
    · rw [if_pos none, if_pos none'] at same
      exact ⟨none.trans none'.symm, same⟩
    · rw [if_pos none, if_neg none'] at same
      have first := congrArg List.head? same
      exact absurd first other
  · by_cases none' : body' = []
    · rw [if_neg none, if_pos none'] at same
      have first := congrArg List.head? same
      exact absurd first.symm other'
    · rw [if_neg none, if_neg none'] at same
      -- both are there, and the empty line says where they end
      have test {body : List Text} (shown : ∀ line ∈ body, line ≠ []) :
          ∀ line ∈ body, (line != []) = true := by
        intro line mem
        exact bne_iff_ne.2 (shown line mem)
      have bodies : body ++ [] :: rest = body' ++ [] :: rest' := by
        simpa using (List.cons.inj same).2
      have stop {rest : List Text} :
          ∀ line, (([] : Text) :: rest).head? = some line → (line != []) = false := by
        rintro line ⟨⟩
        rfl
      obtain ⟨equal, later⟩ := eq_and_eq_of_append_eq (test shown) (test shown') stop stop bodies
      exact ⟨equal, (List.cons.inj later).2⟩

/-- The lines of the counters. -/
def counterLines (p : Program) : List Text :=
  p.counters.toList.mapIdx fun i initial =>
    (CounterId.spelling ⟨i⟩ ++ " = " ++ toString initial).toList

/-- The lines of the marks. -/
def markLines (p : Program) : List Text :=
  (List.replicate p.marks ()).mapIdx fun i _ => (MarkId.spelling ⟨i⟩ ++ " = unmarked").toList

/-- The lines of the constant texts. -/
def stringLines (p : Program) : List Text :=
  p.strings.texts.toList.mapIdx fun i text =>
    ("S" ++ paddedIndex (indexWidth p.strings.size) i ++ " " ++ text.quoted).toList

/-- The lines of the instructions. -/
def codeLines (p : Program) : List Text :=
  p.code.toList.mapIdx fun index i =>
    (paddedIndex (indexWidth p.size) index ++ "  " ++ (i.spelling ++ p.remark .plain i)).toList

/-- The lines of a listing. -/
def listingLines (p : Program) : List Text :=
  sectionLines "[registers]" (p.counterLines ++ p.markLines) ++
    (sectionLines "[strings]" p.stringLines ++ "[code]".toList :: p.codeLines)

/-- The first section has the counters and the marks. -/
theorem toList_registerSection (p : Program) : (p.registerSection .plain).toList =
    Text.unlines (sectionLines "[registers]" (p.counterLines ++ p.markLines)) := by
  have empty :
      (p.counters.isEmpty && p.marks == 0) = true ↔ p.counterLines ++ p.markLines = [] := by
    simp [counterLines, markLines]
  unfold registerSection sectionLines
  by_cases none : p.counterLines ++ p.markLines = []
  · rw [if_pos none, if_pos (empty.2 none)]
    rfl
  · rw [if_neg none, if_neg (empty.not.2 none)]
    simp [toList_indexedLines, Text.unlines_append, Text.unlines_cons, counterLines, markLines]

/-- The second section has the constant texts, also those that no instruction uses. -/
theorem toList_stringSection (p : Program) : (p.stringSection .plain).toList =
    Text.unlines (sectionLines "[strings]" p.stringLines) := by
  have empty : p.strings.texts.isEmpty = true ↔ p.stringLines = [] := by
    simp [stringLines]
  unfold stringSection sectionLines
  by_cases none : p.stringLines = []
  · rw [if_pos none, if_pos (empty.2 none)]
    rfl
  · rw [if_neg none, if_neg (empty.not.2 none)]
    simp [toList_indexedLines, Text.unlines_append, Text.unlines_cons, stringLines]

/-- The last section is never left out. -/
theorem toList_codeSection (p : Program) : (p.codeSection .plain).toList =
    Text.unlines ("[code]".toList :: p.codeLines) := by
  simp [codeSection, toList_indexedLines, Text.unlines_cons, codeLines]

/-- A listing is the three sections. -/
theorem toList_listing (p : Program) : (p.listing .plain).toList = Text.unlines p.listingLines := by
  rw [listing, String.toList_append, String.toList_append, toList_registerSection,
    toList_stringSection, toList_codeSection, listingLines, Text.unlines_append,
    Text.unlines_append, List.append_assoc]

/-! ## Legible lines -/

/-- No line of a section holds a line break or an escape sequence: the numbers are digits, and texts
are quoted. -/
theorem legible_counterLines (p : Program) : ∀ line ∈ p.counterLines, line.Legible := by
  apply forall_mem_mapIdx
  intro i initial
  simp

theorem legible_markLines (p : Program) : ∀ line ∈ p.markLines, line.Legible := by
  apply forall_mem_mapIdx
  intro i _
  simp

theorem legible_stringLines (p : Program) : ∀ line ∈ p.stringLines, line.Legible := by
  apply forall_mem_mapIdx
  intro i text
  simp

theorem legible_codeLines (p : Program) : ∀ line ∈ p.codeLines, line.Legible := by
  apply forall_mem_mapIdx
  intro index i
  simp [Instruction.legible_spelling, Instruction.legible_remark]

/-- A section with its heading and its empty line has no control characters. -/
theorem legible_sectionLines {heading : String} {body : List Text}
    (here : Text.Legible heading.toList) (below : ∀ line ∈ body, line.Legible) :
    ∀ line ∈ sectionLines heading body, line.Legible := by
  unfold sectionLines
  split
  · intro line mem
    cases mem
  · have ending : ∀ line ∈ body ++ [[]], line.Legible :=
      List.forall_mem_append.2 ⟨below, List.forall_mem_singleton.2 Text.legible_nil⟩
    exact List.forall_mem_cons.2 ⟨here, ending⟩

theorem legible_listingLines (p : Program) : ∀ line ∈ p.listingLines, line.Legible := by
  have registers : ∀ line ∈ p.counterLines ++ p.markLines, line.Legible :=
    List.forall_mem_append.2 ⟨p.legible_counterLines, p.legible_markLines⟩
  have code : ∀ line ∈ "[code]".toList :: p.codeLines, Text.Legible line :=
    List.forall_mem_cons.2 ⟨by decide, p.legible_codeLines⟩
  refine List.forall_mem_append.2 ⟨legible_sectionLines (by decide) registers, ?_⟩
  exact List.forall_mem_append.2 ⟨legible_sectionLines (by decide) p.legible_stringLines, code⟩

/-- Split at its line breaks, a listing gives back its lines. -/
theorem lines_listing (p : Program) : Text.lines (p.listing .plain).toList = p.listingLines := by
  rw [toList_listing]
  exact Text.lines_unlines p.legible_listingLines

/-! ## Reading back -/

/-- The first letter of a line says what it is about: counters, marks and texts have different
ones. -/
theorem head?_counterLines (p : Program) : ∀ line ∈ p.counterLines, line.head? = some 'R' := by
  apply forall_mem_mapIdx
  intro i initial
  simp

theorem head?_markLines (p : Program) : ∀ line ∈ p.markLines, line.head? = some 'P' := by
  apply forall_mem_mapIdx
  intro i _
  simp

theorem head?_stringLines (p : Program) : ∀ line ∈ p.stringLines, line.head? = some 'S' := by
  apply forall_mem_mapIdx
  intro i text
  simp

/-- The lines of the registers are told apart by their first letters. -/
theorem registerLines_inj
    (same : p.counterLines ++ p.markLines = q.counterLines ++ q.markLines) :
    p.counterLines = q.counterLines ∧ p.markLines = q.markLines := by
  have counters (p : Program) : ∀ line ∈ p.counterLines, (line.head? == some 'R') = true := by
    intro line mem
    rw [p.head?_counterLines line mem]
    rfl
  have marks (p : Program) :
      ∀ line, p.markLines.head? = some line → (line.head? == some 'R') = false := by
    intro line first
    rw [p.head?_markLines line (List.mem_of_head? first)]
    rfl
  exact eq_and_eq_of_append_eq (counters p) (counters q) (marks p) (marks q) same

/-- No line of the registers is empty, so the section can be told from the line behind it. -/
theorem shown_registerLines (p : Program) : ∀ line ∈ p.counterLines ++ p.markLines, line ≠ [] := by
  rintro line mem rfl
  rcases List.mem_append.1 mem with mem | mem
  · cases p.head?_counterLines [] mem
  · cases p.head?_markLines [] mem

theorem shown_stringLines (p : Program) : ∀ line ∈ p.stringLines, line ≠ [] := by
  rintro line mem rfl
  cases p.head?_stringLines [] mem

/-- The initial value of each counter is read back. -/
theorem counters_eq_of_counterLines_eq (same : p.counterLines = q.counterLines) :
    p.counters = q.counters := by
  apply Array.toList_inj.1
  apply eq_of_mapIdx_eq _ same
  intro i a b line
  simpa using line

/-- Marks all begin in the same way, so it is their number that is read back. -/
theorem marks_eq_of_markLines_eq (same : p.markLines = q.markLines) : p.marks = q.marks := by
  have lengths := congrArg List.length same
  simpa [markLines] using lengths

/-- Constant texts are read back from between their quotes. -/
theorem strings_eq_of_stringLines_eq (same : p.stringLines = q.stringLines) :
    p.strings = q.strings := by
  have sizes : p.strings.size = q.strings.size := by
    have lengths := congrArg List.length same
    simpa [stringLines, StringTable.size] using lengths
  have texts : p.strings.texts.toList = q.strings.texts.toList := by
    apply eq_of_mapIdx_eq _ same
    intro i a b line
    simp only [sizes, String.toList_append] at line
    have quoted : a.quoted.toList ++ [] = b.quoted.toList ++ [] :=
      congrArg (· ++ []) (List.append_cancel_left line)
    exact (Text.quoted_append_inj quoted).1
  exact StringTable.ext (Array.toList_inj.1 texts)

/-- Instructions are read back, whatever is remarked behind them. -/
theorem code_eq_of_codeLines_eq (same : p.codeLines = q.codeLines) : p.code = q.code := by
  have sizes : p.size = q.size := by
    have lengths := congrArg List.length same
    simpa [codeLines, size] using lengths
  apply Array.toList_inj.1
  apply eq_of_mapIdx_eq _ same
  intro index i j line
  rw [sizes, String.toList_append, String.toList_append (t := j.spelling ++ _)] at line
  exact Instruction.eq_of_line_eq (List.append_cancel_left line)

/-- Programs with the same listing are the same program. -/
theorem listing_eq_iff (p q : Program) : p.listing .plain = q.listing .plain ↔ p = q := by
  constructor
  · intro same
    have lines : p.listingLines = q.listingLines := by rw [← lines_listing, same, lines_listing]
    -- what follows a section does not begin with its heading
    have code (p : Program) : ("[code]".toList :: p.codeLines).head? ≠ some "[strings]".toList := by
      rw [List.head?_cons]
      decide
    have strings (p : Program) :
        (sectionLines "[strings]" p.stringLines ++ "[code]".toList :: p.codeLines).head? ≠
          some "[registers]".toList := by
      intro first
      rcases head?_sectionLines_append first with here | here
      · exact absurd here (by decide)
      · rw [List.head?_cons] at here
        exact absurd here (by decide)
    obtain ⟨registers, later⟩ := sectionLines_append_inj p.shown_registerLines
      q.shown_registerLines (strings p) (strings q) lines
    obtain ⟨texts, rest⟩ := sectionLines_append_inj p.shown_stringLines q.shown_stringLines
      (code p) (code q) later
    obtain ⟨counters, marks⟩ := registerLines_inj registers
    exact Program.ext (code_eq_of_codeLines_eq (List.cons.inj rest).2)
      (strings_eq_of_stringLines_eq texts) (counters_eq_of_counterLines_eq counters)
      (marks_eq_of_markLines_eq marks)
  · rintro rfl
    rfl

end Program

end GraphemeRegex
