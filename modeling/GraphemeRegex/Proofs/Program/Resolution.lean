import GraphemeRegex.Proofs.Program.Interning
import GraphemeRegex.Proofs.Program.Numbering
import Mathlib.Data.List.TakeWhile

/-! # Resolution — what becomes of labels

Code may name a label long before the label is placed, or long after. What program comes of a
sequence of calls can be read off the calls alone: the instructions that they emit, in which each
label stands for the number of instructions in front of the call that places it, and the registers
and texts that they ask for.

* `Builder.Call.emitted`, `Builder.Call.target`: the code of calls, and what a label in it stands
  for.
* `Builder.Records`: a builder has kept what calls asked for.
* `Builder.Records.perform`, `Builder.Records.performAll`: each further call is kept, too.
* `Builder.assemble_of_performAll`: which calls can be assembled, and to what.
-/

namespace GraphemeRegex

/-- Only what stands for the targets of an instruction matters. -/
theorem Instruction.mapTargets_congr {α β : Type} {f g : α → β} {i : Instruction α}
    (same : ∀ a ∈ i.targets, f a = g a) : i.mapTargets f = i.mapTargets g := by
  cases i <;>
    simp only [targets, List.mem_cons, List.not_mem_nil, or_false, forall_eq_or_imp, forall_eq]
      at same <;>
    simp [mapTargets, mapTargetsM, same]

namespace Builder

variable {b c : Builder} {calls before : List Call} {call : Call} {label : Label}

/-! ## What calls ask for -/

namespace Call

/-- The text that a call needs. -/
def text? : Call → Option Text
  | intern text | emitString text _ => some text
  | _ => none

/-- The value of the counter that a call makes. -/
def initial? : Call → Option Nat
  | newCounter initial => some initial
  | _ => none

def makesLabel : Call → Bool
  | newLabel => true
  | _ => false

def makesMark : Call → Bool
  | newMark => true
  | _ => false

/-- Whether a call appends an instruction. -/
def emits : Call → Bool
  | emit _ _ | emitString _ _ => true
  | _ => false

/-- Whether a call gives the label its place. -/
def places (label : Label) : Call → Bool
  | place other => other = label
  | _ => false

/-- The instruction that a call appends; a text stands in it as its number among `texts`. -/
def instruction? (texts : List Text) : Call → Option (Instruction Label)
  | emit i _ => some i
  | emitString text level => some (.matchString ⟨texts.idxOf text⟩ level)
  | _ => none

/-- The different texts that calls need, in the order in which they are first needed. -/
def constants (calls : List Call) : List Text :=
  (calls.filterMap text?).eraseDups

/-- The instructions that calls append. -/
def emitted (calls : List Call) : List (Instruction Label) :=
  calls.filterMap (instruction? (constants calls))

/-- Whether one of the calls gives the label its place. -/
def isPlaced (calls : List Call) (label : Label) : Bool :=
  calls.any (places label)

/-- The number of instructions in front of the call that gives the label its place. -/
def target (calls : List Call) (label : Label) : Nat :=
  (calls.takeWhile fun call => !call.places label).countP emits

/-! ## One call more -/

/-- Texts that are needed later come behind. -/
theorem constants_grow (calls : List Call) (call : Call) :
    constants calls <+: constants (calls ++ [call]) := by
  rw [constants, constants, List.filterMap_append]
  exact StringTable.prefix_eraseDups_append _ _

/-- A call appends the same instruction whichever texts are needed later. -/
theorem emitted_snoc (calls : List Call) (call : Call) :
    emitted (calls ++ [call]) =
      emitted calls ++ (call.instruction? (constants (calls ++ [call]))).toList := by
  have earlier : calls.filterMap (instruction? (constants (calls ++ [call]))) = emitted calls := by
    apply List.filterMap_congr
    intro other mem
    cases other with
    | emitString text level =>
      -- the text of an earlier call is already among the texts, with its number
      have needed : text ∈ constants calls := by
        rw [constants, List.mem_eraseDups]
        exact List.mem_filterMap.2 ⟨_, mem, rfl⟩
      have same := (constants_grow calls call).idxOf_eq_of_mem needed
      simp only [instruction?, same]
    | _ => rfl
  rw [emitted, List.filterMap_append, earlier]
  cases stands : call.instruction? (constants (calls ++ [call])) <;> simp [stands]

/-- How many instructions calls append does not depend on the texts. -/
theorem length_filterMap_instruction? (texts : List Text) (calls : List Call) :
    (calls.filterMap (instruction? texts)).length = calls.countP emits := by
  rw [List.length_filterMap_eq_countP]
  congr 1
  funext call
  cases call <;> rfl

/-- As many instructions stand in the code as calls append one. -/
theorem length_emitted (calls : List Call) : (emitted calls).length = calls.countP emits :=
  length_filterMap_instruction? _ calls

/-- A label has a place from the call on that gives it one. -/
theorem isPlaced_snoc (calls : List Call) (call : Call) (label : Label) :
    isPlaced (calls ++ [call]) label = (isPlaced calls label || call.places label) := by
  simp [isPlaced]

/-- A label stands for the place that it was given. -/
theorem target_snoc_of_isPlaced (placed : isPlaced calls label = true) (call : Call) :
    target (calls ++ [call]) label = target calls label := by
  rcases List.any_eq_true.1 placed with ⟨other, mem, places⟩
  have stops : calls.takeWhile (fun call => !call.places label) ≠ calls := by
    intro all
    have passed := List.takeWhile_eq_self_iff.1 all other mem
    simp [places] at passed
  have shorter : (calls.takeWhile fun call => !call.places label).length ≠ calls.length := by
    intro same
    exact stops ((List.takeWhile_prefix _).eq_of_length same)
  rw [target, target, List.takeWhile_append, if_neg shorter]

/-- A label that is placed last stands for the number of all instructions. -/
theorem target_snoc_of_places (fresh : isPlaced calls label = false)
    (places : call.places label = true) :
    target (calls ++ [call]) label = calls.countP emits := by
  have all : calls.takeWhile (fun call => !call.places label) = calls := by
    apply List.takeWhile_eq_self_iff.2
    intro other mem
    have unplaced := List.any_eq_false.1 fresh other mem
    simpa using unplaced
  rw [target, List.takeWhile_append, all, if_pos rfl]
  simp [places]

end Call

/-! ## What a call does -/

/-- A call adds the text that it needs. -/
theorem strings_of_perform (performed : b.perform call = .ok c) {texts : List Text}
    (lists : b.strings.Lists texts) : c.strings.Lists (texts ++ call.text?.toList) := by
  cases call with
  | intern text | emitString text _ =>
    cases performed
    exact lists.intern text
  | place label =>
    rcases place_eq_ok_iff.1 performed with ⟨_, rfl⟩
    simpa [Call.text?] using lists
  | emit i textless =>
    rcases allows_of_emit performed with ⟨_, rfl⟩
    simpa [Call.text?] using lists
  | _ =>
    cases performed
    simpa [Call.text?, newLabel, newCounter, newMark] using lists

/-- A call appends its instruction, if it has any, in which a text stands as its number. -/
theorem code_of_perform (performed : b.perform call = .ok c) {texts : List Text}
    (lists : b.strings.Lists texts) :
    c.code.toList = b.code.toList ++
      (call.instruction? (texts ++ call.text?.toList).eraseDups).toList := by
  cases call with
  | emitString text level =>
    cases performed
    simp [emitString, Builder.intern, lists.intern_fst text, Call.instruction?, Call.text?]
  | place label =>
    rcases place_eq_ok_iff.1 performed with ⟨_, rfl⟩
    simp [Call.instruction?]
  | emit i textless =>
    rcases allows_of_emit performed with ⟨_, rfl⟩
    simp [Call.instruction?]
  | _ =>
    cases performed
    simp [Call.instruction?, Builder.newLabel, Builder.newCounter, Builder.newMark, Builder.intern]

/-- Only one kind of call makes labels. -/
theorem size_labels_of_perform (performed : b.perform call = .ok c) :
    c.labels.size = b.labels.size + call.makesLabel.toNat := by
  cases call with
  | newLabel =>
    cases performed
    simp [newLabel, Call.makesLabel]
  | place label =>
    rcases place_eq_ok_iff.1 performed with ⟨_, rfl⟩
    simp [Call.makesLabel]
  | emit i textless =>
    rcases allows_of_emit performed with ⟨_, rfl⟩
    rfl
  | _ =>
    cases performed
    rfl

/-- A call gives a place to the label that it places and to no other one. -/
theorem labels_of_perform (performed : b.perform call = .ok c) (label : Label) :
    c.labels[label.index]?.join =
      if call.places label = true then some b.code.size else b.labels[label.index]?.join := by
  cases call with
  | newLabel =>
    cases performed
    rw [newLabel, Array.getElem?_push]
    split
    · rename_i last
      simp [Call.places, last]
    · rfl
  | place other =>
    rcases place_eq_ok_iff.1 performed with ⟨waits, rfl⟩
    rcases Array.getElem?_eq_some_iff.1 waits with ⟨inside, _⟩
    by_cases same : other = label
    · subst same
      simp [Call.places, inside]
    · -- labels are told apart by their indexes
      have differ : other.index ≠ label.index := by
        intro indices
        apply same
        cases other
        cases label
        exact congrArg Label.mk indices
      simp [Call.places, same, Array.getElem?_setIfInBounds_ne differ]
  | emit i textless =>
    rcases allows_of_emit performed with ⟨_, rfl⟩
    rfl
  | _ =>
    cases performed
    rfl

/-- A label that is given a place has had none. -/
theorem waits_of_places (performed : b.perform call = .ok c) (places : call.places label = true) :
    b.labels[label.index]? = some none := by
  cases call with
  | place other =>
    have same : other = label := by simpa [Call.places] using places
    subst same
    exact (place_eq_ok_iff.1 performed).1
  | _ => cases places

/-! ## Records -/

/-- The builder has kept what the calls asked for. -/
structure Records (b : Builder) (calls : List Call) : Prop where
  code : b.code.toList = Call.emitted calls
  labels : b.labels.size = calls.countP Call.makesLabel
  places : ∀ label : Label, b.labels[label.index]?.join =
    if Call.isPlaced calls label = true then some (Call.target calls label) else none
  counters : b.counters.toList = calls.filterMap Call.initial?
  marks : b.marks = calls.countP Call.makesMark
  strings : b.strings.Lists (calls.filterMap Call.text?)

/-- Nothing has been asked for. -/
theorem records_empty : empty.Records [] where
  code := rfl
  labels := rfl
  places _ := rfl
  counters := rfl
  marks := rfl
  strings := StringTable.lists_empty

namespace Records

/-- What a call asks for is kept behind what was kept before. -/
theorem perform (h : b.Records calls) (performed : b.perform call = .ok c) :
    c.Records (calls ++ [call]) := by
  have texts : (calls ++ [call]).filterMap Call.text? =
      calls.filterMap Call.text? ++ call.text?.toList := by
    cases needs : call.text? <;> simp [needs]
  constructor
  case code =>
    rw [code_of_perform performed h.strings, h.code, Call.emitted_snoc, Call.constants, texts]
  case labels =>
    rw [size_labels_of_perform performed, h.labels, List.countP_append, List.countP_singleton]
    cases call.makesLabel <;> rfl
  case places =>
    intro label
    rw [labels_of_perform performed, Call.isPlaced_snoc]
    by_cases places : call.places label = true
    · -- the label waited, so no call before has placed it, and now it stands behind all code
      have waits := waits_of_places performed places
      have fresh : Call.isPlaced calls label = false := by
        have place := h.places label
        rw [waits] at place
        by_contra placed
        rw [if_pos (by simpa using placed)] at place
        cases place
      have size : b.code.size = calls.countP Call.emits := by
        rw [← Call.length_emitted, ← h.code, Array.length_toList]
      rw [if_pos places, Call.target_snoc_of_places fresh places, size]
      simp [places]
    · rw [if_neg places, h.places label]
      simp only [places, Bool.or_false]
      split
      · rename_i placed
        rw [Call.target_snoc_of_isPlaced placed]
      · rfl
  case counters =>
    have made : (call.counter? b).map (·.2) = call.initial? := by
      cases call <;> rfl
    rw [counters_of_perform performed, made, Array.toList_append, h.counters]
    cases makes : call.initial? <;> simp [makes]
  case marks =>
    have made : (call.mark? b).toList.length = call.makesMark.toNat := by
      cases call <;> rfl
    rw [marks_of_perform performed, h.marks, made, List.countP_append, List.countP_singleton]
    cases call.makesMark <;> rfl
  case strings =>
    rw [texts]
    exact strings_of_perform performed h.strings

/-- What calls ask for is kept behind what was kept before. -/
theorem performAll (h : b.Records before) (performed : b.performAll calls = .ok c) :
    c.Records (before ++ calls) := by
  induction calls generalizing b before with
  | nil =>
    cases performed
    rwa [List.append_nil]
  | cons call calls ih =>
    rcases performAll_cons_eq_ok performed with ⟨next, first, later⟩
    have further := ih (h.perform first) later
    rwa [List.append_assoc] at further

/-! ## Labels -/

/-- The labels with a place are those that a call has given one. -/
theorem getElem?_labels_iff (h : b.Records calls) (label : Label) (place : Nat) :
    b.labels[label.index]? = some (some place) ↔
      Call.isPlaced calls label = true ∧ place = Call.target calls label := by
  rw [← Option.join_eq_some_iff, h.places label]
  by_cases placed : Call.isPlaced calls label = true
  · simp [placed, eq_comm]
  · simp [placed]

/-- The labels that wait for a place are those that a call has made and none has placed. -/
theorem waits_iff (h : b.Records calls) (label : Label) :
    b.labels[label.index]? = some none ↔
      label.index < calls.countP Call.makesLabel ∧ Call.isPlaced calls label = false := by
  rw [← h.labels]
  constructor
  · intro waits
    rcases Array.getElem?_eq_some_iff.1 waits with ⟨inside, _⟩
    refine ⟨inside, ?_⟩
    by_contra placed
    have place := (h.getElem?_labels_iff label _).2 ⟨by simpa using placed, rfl⟩
    rw [waits] at place
    cases place
  · rintro ⟨inside, fresh⟩
    rw [Array.getElem?_eq_getElem inside]
    cases stands : b.labels[label.index] with
    | none => rfl
    | some place =>
      -- a label with a place was placed by a call, against what is known
      have found : b.labels[label.index]? = some (some place) := by
        rw [Array.getElem?_eq_getElem inside, stands]
      have placed := ((h.getElem?_labels_iff label place).1 found).1
      rw [fresh] at placed
      cases placed

/-- The place of a label is the one that the calls gave it. -/
theorem placeOf_eq (h : b.Records calls) (placed : Call.isPlaced calls label = true) :
    b.placeOf label = Call.target calls label := by
  rw [placeOf, h.places label, if_pos placed, Option.getD_some]

end Records

/-! ## Assembling -/

/-- Placing a label fails unless the label waits for it. -/
theorem exists_place_eq_error_iff (b : Builder) (label : Label) :
    (∃ fault, b.place label = .error fault) ↔ b.labels[label.index]? ≠ some none := by
  have refused : (∃ fault, b.place label = .error fault) ↔ ¬ ∃ c, b.place label = .ok c := by
    cases b.place label <;> simp
  rw [refused]
  simp only [place_eq_ok_iff, exists_and_left, exists_eq, and_true, Ne]

/-- Assembling fails if there is a label in the code without a place. -/
theorem exists_assemble_eq_error_iff (b : Builder) :
    (∃ fault, b.assemble = .error fault) ↔
      ∃ i ∈ b.code, ∃ label ∈ i.targets,
        ¬ ∃ place, b.labels[label.index]? = some (some place) := by
  have refused : (∃ fault, b.assemble = .error fault) ↔ ¬ ∃ p, b.assemble = .ok p := by
    cases b.assemble <;> simp
  rw [refused]
  simp only [assemble_eq_ok_iff, exists_and_left, exists_eq, and_true, not_forall, exists_prop]

/-- Labels are resolved exactly. Code can be assembled unless it names a label that was never
placed; the program is then the code that was emitted, in which each label stands for the number of
instructions emitted in front of its place, with the registers and texts that were asked for. A
further label can be placed unless it was never made or has been placed before. -/
theorem assemble_of_performAll (performed : empty.performAll calls = .ok b) :
    ((∃ fault, b.assemble = .error fault) ↔
      ∃ i ∈ Call.emitted calls, ∃ label ∈ i.targets, Call.isPlaced calls label = false) ∧
    (∀ p, b.assemble = .ok p →
      p.code.toList = (Call.emitted calls).map (·.mapTargets (Call.target calls)) ∧
      p.counters.toList = calls.filterMap Call.initial? ∧
      p.marks = calls.countP Call.makesMark ∧
      p.strings.texts.toList = Call.constants calls) ∧
    ∀ label, (∃ fault, b.place label = .error fault) ↔
      calls.countP Call.makesLabel ≤ label.index ∨ Call.isPlaced calls label = true := by
  have records : b.Records calls := records_empty.performAll performed
  -- all about the builder is known from the calls
  have written {i : Instruction Label} : i ∈ b.code ↔ i ∈ Call.emitted calls := by
    rw [← Array.mem_toList_iff, records.code]
  have placed_iff (label : Label) :
      (∃ place, b.labels[label.index]? = some (some place)) ↔
        Call.isPlaced calls label = true := by
    constructor
    · rintro ⟨place, found⟩
      exact ((records.getElem?_labels_iff label place).1 found).1
    · intro placed
      exact ⟨_, (records.getElem?_labels_iff label _).2 ⟨placed, rfl⟩⟩
  refine ⟨?_, ?_, ?_⟩
  · rw [exists_assemble_eq_error_iff]
    simp only [written, placed_iff, Bool.not_eq_true]
  · intro p assembled
    rcases assemble_eq_ok_iff.1 assembled with ⟨placed, rfl⟩
    refine ⟨?_, records.counters, records.marks, records.strings⟩
    rw [finished, Array.toList_map, records.code]
    apply List.map_congr_left
    intro i mem
    apply Instruction.mapTargets_congr
    intro label named
    exact records.placeOf_eq ((placed_iff label).1 (placed i (written.2 mem) label named))
  · intro label
    rw [exists_place_eq_error_iff, Ne, records.waits_iff, not_and_or, Nat.not_lt,
      Bool.not_eq_false]

/-- Two labels that are used before they get one place at the end, one that is used behind its
place, and one that never gets a place. -/
theorem assemble_of_labels_at_end :
    let calls : List Call := [.newLabel, .newLabel, .newLabel, .newLabel, .newCounter 3, .newMark,
      .place ⟨0⟩, .emit (.split ⟨1⟩ ⟨0⟩) rfl, .emitString ['a', 'b'] .grapheme,
      .emit (.condBranch ⟨2⟩ ⟨0⟩) rfl, .emitString ['c'] .scalar,
      .emitString ['a', 'b'] .grapheme, .emit (.checkProgress ⟨0⟩ ⟨0⟩) rfl, .place ⟨2⟩, .place ⟨1⟩]
    ∃ b p, empty.performAll calls = .ok b ∧ b.assemble = .ok p ∧
      p.code.toList = [.split 6 0, .matchString ⟨0⟩ .grapheme, .condBranch 6 ⟨0⟩,
        .matchString ⟨1⟩ .scalar, .matchString ⟨0⟩ .grapheme, .checkProgress 0 ⟨0⟩] ∧
      p.counters.toList = [3] ∧ p.marks = 1 ∧ p.strings.texts.toList = [['a', 'b'], ['c']] ∧
      (∃ fault, b.place ⟨1⟩ = .error fault) ∧ ¬ ∃ fault, b.place ⟨3⟩ = .error fault := by
  intro calls
  let b : Builder := ⟨#[.split ⟨1⟩ ⟨0⟩, .matchString ⟨0⟩ .grapheme, .condBranch ⟨2⟩ ⟨0⟩,
    .matchString ⟨1⟩ .scalar, .matchString ⟨0⟩ .grapheme, .checkProgress ⟨0⟩ ⟨0⟩],
    #[some 0, some 6, some 6, none], #[3], 1, ⟨#[['a', 'b'], ['c']]⟩⟩
  have performed : empty.performAll calls = .ok b := by decide +kernel
  rcases assemble_of_performAll performed with ⟨refused, resolved, placing⟩
  have named : ∀ i ∈ Call.emitted calls, ∀ label ∈ i.targets,
      Call.isPlaced calls label = true := by decide +kernel
  cases assembled : b.assemble with
  | error fault =>
    rcases refused.1 ⟨fault, assembled⟩ with ⟨i, mem, label, used, unplaced⟩
    rw [named i mem label used] at unplaced
    cases unplaced
  | ok p =>
    rcases resolved p assembled with ⟨code, counters, marks, texts⟩
    refine ⟨b, p, performed, assembled, ?_, ?_, ?_, ?_, ?_, ?_⟩
    · rw [code]
      decide +kernel
    · rw [counters]
      rfl
    · rw [marks]
      rfl
    · rw [texts]
      decide +kernel
    · exact (placing ⟨1⟩).2 (.inr (by decide +kernel))
    · rw [placing]
      decide +kernel

end Builder

end GraphemeRegex
