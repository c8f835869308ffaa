import GraphemeRegex.Proofs.Machine.Observation
import GraphemeRegex.Proofs.Program.Listing

/-! # Trace lines — what the lines of a trace say

Verbosity and colours decide how the events of a run are written, not which events there are. More
of them are shown at a higher verbosity, a line is longer at the highest one, and colours can be
taken out again.

* `TraceStyle.strips_line`: a line without its colours.
* `TraceStyle.bullet`, `TraceStyle.bullet_line`: what a line begins with.
* `TraceStyle.eq_of_line_eq_verdict`: no other event is written like the end of a run.
* `Machine.Shows`, `Machine.shows_traceAt`: what the lines of a trace say of the run.
-/

namespace GraphemeRegex

/-- Whether the event is about checkpoints: one was pushed, or some were cut. -/
def Event.isCheckpoint : Event → Bool
  | .pushed _ _ | .dropped _ _ => true
  | _ => false

namespace TraceStyle

/-- The style without colours. -/
def uncoloured (t : TraceStyle) : TraceStyle :=
  { t with palette := .plain }

variable {t : TraceStyle}

/-- A main line is an index, a symbol and a text. -/
theorem toList_mainLine (t : TraceStyle) (ip : Nat) (symbol content : String) :
    (t.mainLine ip symbol content).toList =
      ' ' :: ' ' :: ((t.palette.dimmed (paddedIndex t.width ip)).toList ++
        ' ' :: (symbol.toList ++ ' ' :: content.toList)) := by
  simp [mainLine]

/-- Below an index, a line is indented by its width. -/
theorem toList_subLine (t : TraceStyle) (symbol content : String) :
    (t.subLine symbol content).toList =
      List.replicate (2 + t.width + 1) ' ' ++ (symbol.toList ++ ' ' :: content.toList) := by
  simp [subLine]

/-! ## Without colours -/

section

variable (h : t.palette.IsEscaping)

include h

/-- Offsets are dimmed. -/
theorem strips_offset (n : Nat) : t.palette.Strips (t.offset n) (t.uncoloured.offset n) := by
  have plain : t.uncoloured.offset n = "@" ++ toString n := Palette.dimmed_plain _
  rw [plain]
  exact Palette.strips_dimmed h (by simp)

/-- The index of a main line is dimmed; symbol and text may have colours of their own. -/
theorem strips_mainLine (ip : Nat) {symbol symbol' content content' : String}
    (first : t.palette.Strips symbol symbol') (second : t.palette.Strips content content') :
    t.palette.Strips (t.mainLine ip symbol content)
      (t.uncoloured.mainLine ip symbol' content') := by
  have index : t.palette.Strips (t.palette.dimmed (paddedIndex t.width ip))
      (t.uncoloured.palette.dimmed (paddedIndex t.width ip)) := by
    rw [uncoloured, Palette.dimmed_plain]
    exact Palette.strips_dimmed h (legible_paddedIndex _ _)
  have blank : t.palette.Strips " " " " := Palette.strips_of_legible h (by decide)
  have margin : t.palette.Strips "  " "  " := Palette.strips_of_legible h (by decide)
  exact ((((margin.append index).append blank).append first).append blank).append second

/-- A line below an index has the colours of its symbol and its text. -/
theorem strips_subLine {symbol symbol' content content' : String}
    (first : t.palette.Strips symbol symbol') (second : t.palette.Strips content content') :
    t.palette.Strips (t.subLine symbol content) (t.uncoloured.subLine symbol' content') := by
  have margin : t.palette.Strips (String.ofList (List.replicate (2 + t.width + 1) ' '))
      (String.ofList (List.replicate (2 + t.width + 1) ' ')) := by
    apply Palette.strips_of_legible h
    intro c mem
    rw [String.toList_ofList] at mem
    rw [List.eq_of_mem_replicate mem]
    decide
  have blank : t.palette.Strips " " " " := Palette.strips_of_legible h (by decide)
  exact ((margin.append first).append blank).append second

/-- Whatever event a line is about, without its colours it is the line without colours. -/
theorem strips_line (e : Event) : t.palette.Strips (t.line e) (t.uncoloured.line e) := by
  have plain {s : String} (legible : Text.Legible s.toList) : t.palette.Strips s s :=
    Palette.strips_of_legible h legible
  cases e with
  | instruction ip i offset =>
    -- the spelling of an instruction is legible; the offset behind it is dimmed
    apply strips_mainLine h ip (plain (by decide))
    apply (plain i.legible_spelling).append
    by_cases most : t.verbosity = .veryVerbose
    · simp only [uncoloured, most]
      exact (plain (by decide)).append (strips_offset h offset)
    · have quiet : (t.verbosity == .veryVerbose) = false := beq_eq_false_iff_ne.2 most
      simp only [uncoloured, quiet]
      exact plain (s := "") (by decide)
  | consumed text =>
    -- a quoted text is legible whatever was consumed
    apply strips_subLine h (plain (by decide))
    rw [uncoloured, Palette.inGreen_plain]
    exact Palette.strips_inGreen h (Text.legible_quoted text)
  | failed offset =>
    refine strips_subLine h ?_ (strips_offset h offset)
    rw [uncoloured, Palette.inRed_plain]
    exact Palette.strips_inRed h (by decide)
  | pushed c depth =>
    apply strips_subLine h (plain (by decide))
    apply plain
    cases c <;> simp [checkpointName]
  | resumed ip offset =>
    refine strips_mainLine h ip ?_ (strips_offset h offset)
    rw [uncoloured, Palette.inRed_plain]
    exact Palette.strips_inRed h (by decide)
  | dropped count offset =>
    apply strips_subLine h (plain (by decide))
    exact (plain (by simp)).append (strips_offset h offset)
  | accepted offset => exact strips_subLine h (plain (by decide)) (strips_offset h offset)
  | noMatch =>
    apply strips_subLine h (plain (by decide))
    rw [uncoloured, Palette.inRed_plain]
    exact Palette.strips_inRed h (by decide)

end

/-! ## Bullets -/

/-- What a line begins with, blanks aside. -/
def bullet (line : String) : Option Char :=
  (line.toList.dropWhile (· == ' ')).head?

/-- Whether a line without colours reports that a checkpoint was pushed or that some were cut. -/
def reportsCheckpoint (line : String) : Bool :=
  bullet line == some '+' || bullet line == some '✂'

/-- A line below an index begins with its symbol. -/
theorem bullet_subLine (t : TraceStyle) {symbol : String} {c : Char} (content : String)
    (first : symbol.toList.head? = some c) (visible : (c == ' ') = false) :
    bullet (t.subLine symbol content) = some c := by
  obtain ⟨rest, split⟩ := List.head?_eq_some_iff.1 first
  rw [bullet, toList_subLine, split, List.dropWhile_append_of_pos]
  · simp [visible]
  · simp

/-- An index begins with a digit, padded or not. -/
theorem exists_digit_paddedIndex (width index : Nat) :
    ∃ d rest, (paddedIndex width index).toList = d :: rest ∧ Radix.decimal.isDigit d = true := by
  have digits : ∀ c ∈ (paddedIndex width index).toList, Radix.decimal.isDigit c = true := by
    intro c mem
    rw [paddedIndex, String.toList_ofList] at mem
    -- it is padded with zeros
    rcases List.mem_append.1 mem with zero | digit
    · rw [List.eq_of_mem_replicate zero]
      decide
    · exact Radix.isDigit_of_mem_toDigits digit
  have some : (paddedIndex width index).toList ≠ [] := by
    rw [paddedIndex, String.toList_ofList]
    exact List.append_ne_nil_of_right_ne_nil _ Nat.toDigits_ne_nil
  obtain ⟨d, rest, split⟩ := List.exists_cons_of_ne_nil some
  rw [split] at digits
  exact ⟨d, rest, split, digits d List.mem_cons_self⟩

/-- A main line begins with a digit. -/
theorem bullet_mainLine (t : TraceStyle) (ip : Nat) (symbol content : String) :
    ∃ d, bullet (t.uncoloured.mainLine ip symbol content) = some d ∧
      Radix.decimal.isDigit d = true := by
  obtain ⟨d, rest, split, digit⟩ := exists_digit_paddedIndex t.width ip
  refine ⟨d, ?_, digit⟩
  have visible : (d == ' ') = false := by
    rw [beq_eq_false_iff_ne]
    rintro rfl
    cases digit
  rw [bullet, toList_mainLine, uncoloured, Palette.dimmed_plain, split]
  simp [visible]

/-- The bullet of the line of an event; there is none before a line with an index. -/
def symbol? : Event → Option Char
  | .instruction _ _ _ | .resumed _ _ => none
  | .consumed _ => some '●'
  | .failed _ => some '○'
  | .pushed _ _ => some '+'
  | .dropped _ _ => some '✂'
  | .accepted _ | .noMatch => some '◼'

/-- A line begins with the bullet of its event, or with a digit if it has none. -/
theorem bullet_line (t : TraceStyle) (e : Event) :
    bullet (t.uncoloured.line e) = symbol? e ∨
      symbol? e = none ∧
        ∃ d, bullet (t.uncoloured.line e) = some d ∧ Radix.decimal.isDigit d = true := by
  cases e with
  | instruction ip i offset => exact .inr ⟨rfl, t.bullet_mainLine ip _ _⟩
  | resumed ip offset => exact .inr ⟨rfl, t.bullet_mainLine ip _ _⟩
  | consumed text => exact .inl (bullet_subLine _ _ (by decide) (by decide))
  | failed offset =>
    left
    rw [line, uncoloured, Palette.inRed_plain]
    exact bullet_subLine _ _ (by decide) (by decide)
  | pushed c depth => exact .inl (bullet_subLine _ _ (by decide) (by decide))
  | dropped count offset => exact .inl (bullet_subLine _ _ (by decide) (by decide))
  | accepted offset => exact .inl (bullet_subLine _ _ (by decide) (by decide))
  | noMatch => exact .inl (bullet_subLine _ _ (by decide) (by decide))

/-- A sign that is no digit is the bullet of a line if it is that of the event. -/
theorem bullet_eq_iff {t : TraceStyle} {e : Event} {c : Char}
    (sign : Radix.decimal.isDigit c = false) :
    bullet (t.uncoloured.line e) = some c ↔ symbol? e = some c := by
  rcases t.bullet_line e with here | ⟨none, d, here, digit⟩
  · rw [here]
  · rw [here, none]
    constructor
    · rintro ⟨⟩
      rw [sign] at digit
      cases digit
    · rintro ⟨⟩

/-- The lines about checkpoints can be told from the others by their bullets. -/
theorem reportsCheckpoint_line (t : TraceStyle) (e : Event) :
    reportsCheckpoint (t.uncoloured.line e) = e.isCheckpoint := by
  rw [Bool.eq_iff_iff, reportsCheckpoint, Bool.or_eq_true, beq_iff_eq, beq_iff_eq,
    bullet_eq_iff (by decide), bullet_eq_iff (by decide)]
  cases e <;> simp [symbol?, Event.isCheckpoint]

/-- A black square begins the lines that tell how a run ends, and no others. -/
theorem bullet_eq_iff_isVerdict {e : Event} :
    bullet (t.uncoloured.line e) = some '◼' ↔ e.isVerdict = true := by
  rw [bullet_eq_iff (by decide)]
  cases e <;> simp [symbol?, Event.isVerdict]

/-- Lines below an index with the same symbol are the same if their texts are. -/
theorem subLine_inj {symbol content content' : String} :
    t.subLine symbol content = t.subLine symbol content' ↔ content = content' := by
  rw [← String.toList_inj, toList_subLine, toList_subLine]
  simp [String.toList_inj]

/-- No other event is written like the end of a run. -/
theorem eq_of_line_eq_verdict (h : t.palette.IsEscaping) {e v : Event}
    (verdict : v.isVerdict = true) (same : t.line e = t.line v) : e = v := by
  -- the same lines are the same without their colours
  have plain : t.uncoloured.line e = t.uncoloured.line v := by
    rw [← (strips_line h e).strip_eq, same, (strips_line h v).strip_eq]
  have verdict' : e.isVerdict = true := by
    rw [← bullet_eq_iff_isVerdict (t := t), plain]
    exact bullet_eq_iff_isVerdict.2 verdict
  have accepted (n : Nat) :
      t.uncoloured.line (.accepted n) = t.uncoloured.subLine "◼" ("@" ++ toString n) := by
    simp [line, offset, uncoloured]
  have noMatch : t.uncoloured.line .noMatch = t.uncoloured.subLine "◼" "no match" := by
    simp [line, uncoloured]
  -- an offset is never written as the other answer
  have differ (n : Nat) : "@" ++ toString n ≠ "no match" := by
    rw [← String.toList_inj.ne]
    simp
  cases e with
  | accepted n =>
    cases v with
    | accepted n' =>
      rw [accepted, accepted, subLine_inj, ← String.toList_inj] at plain
      simpa using plain
    | noMatch =>
      rw [accepted, noMatch, subLine_inj] at plain
      exact absurd plain (differ n)
    | _ => cases verdict
  | noMatch =>
    cases v with
    | accepted n' =>
      rw [accepted, noMatch, subLine_inj] at plain
      exact absurd plain.symm (differ n')
    | noMatch => rfl
    | _ => cases verdict
  | _ => cases verdict'

/-! ## Lists of lines -/

/-- What is written behind an instruction at the highest verbosity. -/
def place (t : TraceStyle) : Event → String
  | .instruction _ _ offset => "  " ++ t.offset offset
  | _ => ""

/-- Only at the highest verbosity is a line longer. -/
theorem line_congr {t' : TraceStyle} (palette : t.palette = t'.palette) (width : t.width = t'.width)
    (less : t.verbosity ≠ .veryVerbose) (less' : t'.verbosity ≠ .veryVerbose) (e : Event) :
    t.line e = t'.line e := by
  obtain ⟨v, c, w⟩ := t
  obtain ⟨v', c', w'⟩ := t'
  cases palette
  cases width
  cases e with
  | instruction ip i n =>
    have short : (v == .veryVerbose) = false := beq_eq_false_iff_ne.2 less
    have short' : (v' == .veryVerbose) = false := beq_eq_false_iff_ne.2 less'
    simp only [line, short, short']
    rfl
  | _ => rfl

/-- At the highest verbosity an instruction is followed by its place. -/
theorem line_veryVerbose (palette : Palette) (width : Nat) (e : Event) :
    line ⟨.veryVerbose, palette, width⟩ e =
      line ⟨.verbose, palette, width⟩ e ++ place ⟨.verbose, palette, width⟩ e := by
  cases e with
  | instruction ip i n =>
    show mainLine _ ip " " (i.spelling ++ ("  " ++ offset _ n)) =
      mainLine _ ip " " (i.spelling ++ "") ++ ("  " ++ offset _ n)
    simp only [mainLine, String.append_empty, String.append_assoc]
    rfl
  | _ => exact String.append_empty.symm

/-- From the middle verbosity on, every event is shown. -/
theorem lines_of_verbose (more : t.verbosity ≠ .standard) (events : List Event) :
    t.lines events = events.map t.line := by
  have all : ∀ e ∈ events, t.shows e = true := by
    intro e _
    cases e with
    | pushed | dropped => exact bne_iff_ne.2 more
    | _ => rfl
  rw [lines, List.filter_eq_self.2 all]

/-- Taking the colours out of each line leaves the lines without colours. -/
theorem map_strip_lines (h : t.palette.IsEscaping) (events : List Event) :
    (t.lines events).map t.palette.strip = t.uncoloured.lines events := by
  rw [lines, lines, List.map_map]
  apply List.map_congr_left
  intro e _
  exact (strips_line h e).strip_eq

/-- The end of a run can be read from its last line. -/
theorem getLast?_lines_eq_iff (h : t.palette.IsEscaping) {events : List Event} {outcome : Outcome}
    (tells : Tells events outcome) {v : Event} (verdict : v.isVerdict = true) :
    (t.lines events).getLast? = some (t.line v) ↔
      ∃ result, outcome = .ok result ∧ Event.verdict result = v := by
  -- the end of a run is shown at every verbosity
  have shown : ∀ e, e.isVerdict = true → t.shows e = true := by
    intro e verdict
    cases e with
    | accepted | noMatch => rfl
    | _ => cases verdict
  rw [← tells.getLast?_filter shown verdict, lines, List.getLast?_map, Option.map_eq_some_iff]
  constructor
  · rintro ⟨e, last, same⟩
    rw [← eq_of_line_eq_verdict h verdict same]
    exact last
  · intro last
    exact ⟨v, last, rfl⟩

end TraceStyle

/-! ## Traces of a machine -/

namespace Machine

/-- The lines of events as they are written for the program. -/
def shown (m : Machine) (palette : Palette) (verbosity : Verbosity) (events : List Event) :
    List String :=
  (TraceStyle.forProgram m.program verbosity palette).lines events

/-- What the lines of a run say, in the colours of a palette. -/
structure Shows (m : Machine) (palette : Palette) (events : List Event) (outcome : Outcome) :
    Prop where
  /-- At the lowest verbosity the lines that report checkpoints are left out, and no others. -/
  standard : m.shown palette .standard events =
    (m.shown palette .verbose events).filter fun line =>
      !TraceStyle.reportsCheckpoint (palette.strip line)
  /-- At the higher ones there is a line for each event. -/
  verbose : (m.shown palette .verbose events).length = events.length
  /-- At the highest one each line of an instruction is followed by the position. -/
  veryVerbose : m.shown palette .veryVerbose events =
    List.zipWith (fun line e => line ++ (TraceStyle.forProgram m.program .verbose palette).place e)
      (m.shown palette .verbose events) events
  /-- Without colours the lines are those of the plain palette. -/
  plain (verbosity : Verbosity) :
    (m.shown palette verbosity events).map palette.strip = m.shown .plain verbosity events
  /-- The last line says at which offset the run was accepted. -/
  accepted (verbosity : Verbosity) (stop : Nat) :
    (m.shown palette verbosity events).getLast? =
        some ((TraceStyle.forProgram m.program verbosity palette).line (.accepted stop)) ↔
      ∃ q, outcome = .ok (some q) ∧ q.offset = stop
  /-- The last line says that there is no match. -/
  noMatch (verbosity : Verbosity) :
    (m.shown palette verbosity events).getLast? =
        some ((TraceStyle.forProgram m.program verbosity palette).line .noMatch) ↔
      outcome = .ok none

/-- At the lowest verbosity, the lines about checkpoints are left out. -/
theorem shown_standard (m : Machine) {palette : Palette} (h : palette.IsEscaping)
    (events : List Event) : m.shown palette .standard events =
      (m.shown palette .verbose events).filter fun line =>
        !TraceStyle.reportsCheckpoint (palette.strip line) := by
  let verbose := TraceStyle.forProgram m.program .verbose palette
  let standard := TraceStyle.forProgram m.program .standard palette
  -- what is left out can be told from the line alone
  have test (e : Event) :
      (!TraceStyle.reportsCheckpoint (palette.strip (verbose.line e))) = standard.shows e := by
    have stripped : palette.strip (verbose.line e) = verbose.uncoloured.line e :=
      (TraceStyle.strips_line (t := verbose) h e).strip_eq
    rw [stripped, TraceStyle.reportsCheckpoint_line]
    cases e <;> rfl
  have same (e : Event) : standard.line e = verbose.line e :=
    TraceStyle.line_congr rfl rfl (by intro; contradiction) (by intro; contradiction) e
  calc m.shown palette .standard events
    _ = (events.filter standard.shows).map verbose.line :=
      List.map_congr_left fun e _ => same e
    _ = (events.map verbose.line).filter fun line =>
        !TraceStyle.reportsCheckpoint (palette.strip line) := by
      rw [List.filter_map]
      congr 2
      funext e
      exact (test e).symm
    _ = _ := by rw [shown, TraceStyle.lines_of_verbose (by intro; contradiction)]

/-- At the highest verbosity, each line has the place of its event behind it. -/
theorem shown_veryVerbose (m : Machine) (palette : Palette) (events : List Event) :
    m.shown palette .veryVerbose events = List.zipWith
      (fun line e => line ++ (TraceStyle.forProgram m.program .verbose palette).place e)
      (m.shown palette .verbose events) events := by
  rw [shown, shown, TraceStyle.lines_of_verbose (by intro; contradiction),
    TraceStyle.lines_of_verbose (by intro; contradiction), List.zipWith_map_left,
    List.zipWith_self]
  apply List.map_congr_left
  intro e _
  exact TraceStyle.line_veryVerbose palette _ e

/-- Events that tell an outcome are shown in lines that say so. -/
theorem shows_of_tells (m : Machine) {palette : Palette} (h : palette.IsEscaping)
    {events : List Event} {outcome : Outcome} (tells : Tells events outcome) :
    m.Shows palette events outcome where
  standard := m.shown_standard h events
  verbose := by
    rw [shown, TraceStyle.lines_of_verbose (by intro; contradiction), List.length_map]
  veryVerbose := m.shown_veryVerbose palette events
  plain verbosity :=
    TraceStyle.map_strip_lines (t := .forProgram m.program verbosity palette) h events
  accepted verbosity stop := by
    have last := TraceStyle.getLast?_lines_eq_iff (t := .forProgram m.program verbosity palette) h
      tells (v := .accepted stop) rfl
    rw [shown, last]
    constructor
    · -- the last line is that of this end and no other one
      rintro ⟨result, outcome, verdict⟩
      cases result with
      | none => cases verdict
      | some q =>
        cases verdict
        exact ⟨q, outcome, rfl⟩
    · rintro ⟨q, outcome, rfl⟩
      exact ⟨some q, outcome, rfl⟩
  noMatch verbosity := by
    have last := TraceStyle.getLast?_lines_eq_iff (t := .forProgram m.program verbosity palette) h
      tells (v := .noMatch) rfl
    rw [shown, last]
    constructor
    · rintro ⟨result, outcome, verdict⟩
      cases result with
      | none => exact outcome
      | some q => cases verdict
    · intro outcome
      exact ⟨none, outcome, rfl⟩

/-- A traced run has the outcome of the run, and its lines say so in whatever colours. -/
theorem shows_traceAt (m : Machine) (limits : Limits) (start : Nat) :
    (m.traceAt limits start).2 = m.runAt limits start ∧
      ∀ palette : Palette, palette.IsEscaping →
        m.Shows palette (m.traceAt limits start).1 (m.runAt limits start) := by
  obtain ⟨same, tells⟩ := m.traceAt_spec limits start
  refine ⟨same, ?_⟩
  intro palette escaping
  exact m.shows_of_tells escaping tells

/-- A run that fails to match, resumes from a checkpoint and accepts the empty text. -/
theorem shows_traceAt_of_resuming :
    let m : Machine :=
      ⟨⟨#[.save 2, .matchText ['a'] .scalar, .accept], .empty, #[], 0⟩, ['b'], false⟩
    Palette.ansi.IsEscaping ∧ (m.traceAt ⟨10, 10⟩ 0).1.length = 7 ∧
      m.Shows .ansi (m.traceAt ⟨10, 10⟩ 0).1 (m.runAt ⟨10, 10⟩ 0) := by
  intro m
  have escaping : Palette.ansi.IsEscaping := Palette.isEscaping_ofBool true
  exact ⟨escaping, by decide, (m.shows_traceAt ⟨10, 10⟩ 0).2 .ansi escaping⟩

end Machine

end GraphemeRegex
