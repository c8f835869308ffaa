import GraphemeRegex.Proofs.Lowering.Consuming
import GraphemeRegex.Proofs.Machine.Fitting
import GraphemeRegex.Proofs.Text.Boundaries
import GraphemeRegex.Regex

/-! # Clusters — at the grapheme level, no match splits one

A program for the grapheme level that begins between two clusters of its subject never leaves the
boundaries of the subject: neither with its position, nor with one that a checkpoint or a mark
keeps.

* `State.offsets`: all offsets that a state knows of.
* `Instruction.between_of_consumes?`: what consumes clusters goes from boundary to boundary.
* `Pattern.boundaries_of_visits`: the offsets of a run.
* `Pattern.offsets_between_clusters`: runs and searches at the grapheme level.
-/

namespace GraphemeRegex

/-! ## Offsets of a state -/

/-- The offset of a snapshot and those that its marks remember. -/
def Snapshot.offsets (s : Snapshot) : List Nat :=
  s.pos.offset :: s.marks.toList.filterMap id

/-- The offsets of a state and those that its checkpoints save. -/
def State.offsets (s : State) : List Nat :=
  s.toSnapshot.offsets ++ s.stack.entries.flatMap (·.saved.offsets)

variable {m : Machine} {good : Position → Prop} {n : Nat}

theorem Snapshot.Fits.exists_of_mem_offsets {s : Snapshot} (h : s.Fits m good)
    (mem : n ∈ s.offsets) : ∃ p, good p ∧ p.offset = n := by
  rcases List.mem_cons.1 mem with here | marked
  · exact ⟨s.pos, h.pos, here.symm⟩
  · obtain ⟨value, stored, same⟩ := List.mem_filterMap.1 marked
    have offset : value = some n := same
    subst offset
    obtain ⟨i, found⟩ := List.mem_iff_getElem?.1 stored
    rw [Array.getElem?_toList] at found
    exact h.marked i n found

/-- Where the data of a state fits, each of its offsets is the one of a good position. -/
theorem State.Fits.exists_of_mem_offsets {s : State} (h : s.Fits m good) (mem : n ∈ s.offsets) :
    ∃ p, good p ∧ p.offset = n := by
  rcases List.mem_append.1 mem with now | saved
  · exact h.now.exists_of_mem_offsets now
  · obtain ⟨e, entry, kept⟩ := List.mem_flatMap.1 saved
    exact (h.saved e entry).exists_of_mem_offsets kept

/-! ## Steps -/

/-- What consumes at the grapheme level goes from one boundary of the subject to another. -/
theorem Instruction.between_of_consumes? {i : Instruction Nat} {p q : Position} {text : Text}
    (inner : i.isInner .grapheme = true) (between : m.subject.Between p)
    (taken : i.consumes? m p = some (text, q)) : m.subject.Between q := by
  have reached : m.subject.start.Reaches q :=
    between.reaches.trans ⟨text, after?_of_consumes? taken⟩
  cases i with
  | advance count => exact between.nextClusters? taken
  | matchText wanted level =>
    obtain rfl : level = .grapheme := of_decide_eq_true inner
    exact between.nextCluster? (Option.filter_eq_some_iff.1 taken).1
  | matchString string level =>
    obtain rfl : level = .grapheme := of_decide_eq_true inner
    obtain ⟨wanted, _, found⟩ := Option.bind_eq_some_iff.1 taken
    obtain ⟨q', _, ends⟩ := Option.bind_eq_some_iff.1 found
    -- a constant text has to end at a boundary
    by_cases boundary : m.subject.isBoundary q'.offset = true
    · rw [if_pos boundary, Option.some.injEq, Prod.mk.injEq] at ends
      rw [ends.2, Text.isBoundary, List.contains_iff_mem] at boundary
      exact (Text.between_iff reached).2 boundary
    · rw [if_neg boundary] at ends
      cases ends
  | consume cls level =>
    obtain rfl : level = .grapheme := of_decide_eq_true inner
    exact between.nextCluster? (Option.filter_eq_some_iff.1 taken).1
  | _ => cases taken

/-! ## Runs -/

namespace Pattern

variable {t : Pattern} {p : Program} {subject : Text} {acceptAtEnd : Bool} {start : Position}
  {s : State}

/-- The data of a run at the grapheme level fits the boundaries of the subject. -/
theorem fits_of_visits {stop : Cursor} (compiled : t.Compiled .grapheme m.program stop)
    (between : m.subject.Between start) (visits : m.Visits (.initial m.program start) s) :
    s.Fits m fun q => m.subject.Between q ∧ start.Reaches q := by
  induction visits with
  | refl => exact .initial ⟨between, .refl start⟩
  | step before next ih =>
    apply ih.step _ next
    intro i q text q' code good taken
    have onward : start.Reaches q' := good.2.trans ⟨text, Instruction.after?_of_consumes? taken⟩
    rcases compiled.isInner code with inner | accept
    · exact ⟨Instruction.between_of_consumes? inner good.1 taken, onward⟩
    · subst accept
      cases taken

/-- All offsets of a run that begins between two clusters are boundaries behind its start. -/
theorem boundaries_of_visits (compiled : t.compile .grapheme = .ok m.program)
    (between : m.subject.Between start) (visits : m.Visits (.initial m.program start) s)
    (mem : n ∈ s.offsets) :
    n ∈ m.subject.boundaries ∧ start.offset ≤ n ∧ n ≤ m.subject.byteLength := by
  obtain ⟨stop, code⟩ := compiled_of_compile compiled
  have fits := fits_of_visits code between visits
  obtain ⟨q, ⟨between', onward⟩, rfl⟩ := fits.exists_of_mem_offsets mem
  have boundary := (Text.between_iff between'.reaches).1 between'
  exact ⟨boundary, onward.offset_le, Text.offset_le_byteLength between'.reaches⟩

/-- A run that has an answer halts at the position of its last state. -/
theorem exists_visits_of_runFrom {limits : Limits} {fuel : Nat} {s₀ : State} {r : Position}
    (visits : m.Visits s₀ s) (ran : m.runFrom limits fuel s = .ok (some r)) :
    ∃ t, m.Visits s₀ t ∧ t.pos = r := by
  obtain ⟨t, visits, halts⟩ := (Machine.exists_end_of_runFrom visits).1 (some r) ran
  rcases Machine.halt_of_step halts with ⟨none, _⟩ | ⟨_, here⟩
  · cases none
  · exact ⟨t, visits, (Option.some.inj here).symm⟩

/-- What a search finds lies between two of the positions that it tries and the ends of their
runs. -/
theorem exists_run_of_findFrom {r : Regex} {starts : List Position} {stop : Position}
    (found : r.findFrom subject starts = .ok (some (start, stop))) :
    start ∈ starts ∧ r.runAt subject start = .ok (some stop) := by
  induction starts with
  | nil => cases found
  | cons first later ih =>
    rw [Regex.findFrom] at found
    cases ran : r.runAt subject first with
    | error e =>
      rw [ran] at found
      cases found
    | ok answer =>
      rw [ran] at found
      -- the search goes on behind a run without a match, and stops at one with a match
      cases answer with
      | none =>
        obtain ⟨mem, rest⟩ := ih found
        exact ⟨List.mem_cons_of_mem first mem, rest⟩
      | some stop' =>
        cases found
        exact ⟨List.mem_cons_self, ran⟩

/-- At the grapheme level, a machine only ever stands between two clusters. In every state of a run
that begins at a boundary of the subject, the position, those of the checkpoints and those of the
marks are boundaries of the whole subject, between the start of the run and the end of the subject.
So whatever a search finds begins and ends at boundaries, and it does not end before it begins. -/
theorem offsets_between_clusters (compiled : t.compile .grapheme = .ok p) :
    (∀ (subject : Text) (acceptAtEnd : Bool) (start : Position),
      subject.positionAt? start.offset = some start → start.offset ∈ subject.boundaries →
        ∀ s, Machine.Visits ⟨p, subject, acceptAtEnd⟩ (.initial p start) s → ∀ n ∈ s.offsets,
          n ∈ subject.boundaries ∧ start.offset ≤ n ∧ n ≤ subject.byteLength) ∧
      ∀ (r : Regex), r.program = p → r.level = .grapheme →
        ∀ (subject : Text) (start stop : Position),
          r.find? subject = .ok (some (start, stop)) →
            start.offset ≤ stop.offset ∧ start.offset ∈ subject.boundaries ∧
              stop.offset ∈ subject.boundaries := by
  constructor
  · intro subject acceptAtEnd start found boundary s visits n mem
    have reached := (Text.positionAt?_eq_some_iff.1 found).1
    have between := (Text.between_iff reached).2 boundary
    exact boundaries_of_visits (m := ⟨p, subject, acceptAtEnd⟩) compiled between visits mem
  · intro r program level subject start stop found
    subst program
    obtain ⟨tried, ran⟩ := exists_run_of_findFrom found
    -- at the grapheme level, a search tries the positions between clusters
    have between : subject.Between start := by
      rw [Regex.startPositions, level] at tried
      exact tried
    obtain ⟨s, visits, here⟩ := exists_visits_of_runFrom .refl ran
    have mem : stop.offset ∈ s.offsets := by
      rw [← here]
      exact List.mem_append_left _ List.mem_cons_self
    have ends := boundaries_of_visits (m := ⟨r.program, subject, false⟩) compiled between visits mem
    exact ⟨ends.2.1, (Text.between_iff between.reaches).1 between, ends.1⟩

/-- The pattern `.*a` at the grapheme level, when its loop has passed over a line break of two
scalars: it stands behind both, and can go back in front of both. -/
theorem offsets_behind_line_break :
    let r : Regex := ⟨['.', '*', 'a'], ⟨#[.branch 2, .advance 1, .split 1 3,
      .matchText ['a'] .grapheme, .accept], .empty, #[], 0⟩, .grapheme, .standard⟩
    let subject : Text := ['\r', '\n', 'a']
    (∃ s : State, Machine.Visits ⟨r.program, subject, false⟩ (.initial r.program subject.start) s ∧
      s.offsets = [2, 0] ∧ ∀ n ∈ s.offsets, n ∈ subject.boundaries ∧ 0 ≤ n ∧ n ≤ 3) ∧
    0 ∈ subject.boundaries ∧ 3 ∈ subject.boundaries := by
  intro r subject
  have compiled : (concatenation [.repetition .zeroOrMore .eager (.atom .any),
      .atom (.char ['a'])]).compile .grapheme = .ok r.program := by decide +kernel
  obtain ⟨runs, searches⟩ := offsets_between_clusters compiled
  constructor
  · let looked : CheckpointStack := .ofList [.resume ⟨3, subject.start, #[], #[]⟩]
    let s : State := ⟨⟨2, ⟨2, ['a']⟩, #[], #[]⟩, looked⟩
    have visits : Machine.Visits ⟨r.program, subject, false⟩ (.initial r.program subject.start) s :=
      .step (.step (.step .refl rfl) rfl) rfl
    refine ⟨s, visits, rfl, ?_⟩
    exact runs subject false subject.start (by decide +kernel) (by decide +kernel) s visits
  · have found : r.find? subject = .ok (some (subject.start, ⟨3, []⟩)) := by decide +kernel
    exact (searches r rfl rfl subject subject.start ⟨3, []⟩ found).2

end Pattern

end GraphemeRegex
