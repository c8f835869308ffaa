import GraphemeRegex.Proofs.Text.Boundaries
import GraphemeRegex.Reading.Numeral

/-! # Spans — where in its source reading stands

Reading drops clusters from the front of its source and never looks back, so an offset that it has
kept is a boundary of the source, and the bytes between two of them are whole clusters.

* `Input.Of`: the input is what is left of a source.
* `Input.Past`: it is left behind a unit that begins at a given boundary.
* `ReadError.Placed`: the bytes that an error concerns are whole clusters of the source.
* `eq_of_enough`: fuel that covers what is left does not decide a result.
* `Text.Reads`, `Text.Yields`: a result with a property, or an error that is placed.
-/

namespace GraphemeRegex

variable {source : Text} {start : Nat} {i j : Input}

namespace Text

/-- Text takes up space. -/
theorem byteLength_pos {text : Text} (h : text ≠ []) : 0 < byteLength text := by
  obtain ⟨c, rest, rfl⟩ := List.exists_cons_of_ne_nil h
  exact Nat.lt_of_lt_of_le c.utf8Size_pos (Nat.le_add_right _ _)

end Text

/-! ## Fuel -/

/-- A recursion on fuel that stops where nothing is left, and leaves less at every call, comes to
the same with any two amounts of fuel that cover what is left. -/
theorem eq_of_enough {σ β : Type} {f : Nat → σ → β} {w : σ → Nat} {P : σ → Prop}
    (done : ∀ s, w s = 0 → ∀ n m, f n s = f m s)
    (more : ∀ s, P s → ∀ n m, (∀ s', P s' → w s' < w s → f n s' = f m s') →
      f (n + 1) s = f (m + 1) s)
    {n m : Nat} {s : σ} (holds : P s) (enough : w s ≤ n) (enough' : w s ≤ m) : f n s = f m s := by
  induction n generalizing m s with
  | zero => exact done s (Nat.le_zero.1 enough) _ _
  | succ n ih =>
    cases m with
    | zero => exact done s (Nat.le_zero.1 enough') _ _
    | succ m => exact more s holds n m fun s' holds' less => ih holds' (by omega) (by omega)

/-! ## Inputs of a source -/

namespace Input

/-- The input is what is left of a source behind some of its clusters. -/
def Of (source : Text) (i : Input) : Prop :=
  ∃ taken, source.clusters = taken ++ i.rest ∧ i.offset = Text.byteLength taken.flatten

namespace Of

theorem ofText (source : Text) : (ofText source).Of source :=
  ⟨[], rfl, rfl⟩

/-- Units that are skipped have been taken. -/
theorem skip (h : i.Of source) (count : Nat) : (i.skip count).Of source := by
  obtain ⟨taken, cut, offset⟩ := h
  refine ⟨taken ++ i.rest.take count, ?_, ?_⟩
  · have whole : i.rest.take count ++ (i.skip count).rest = i.rest := List.take_append_drop _ _
    rw [List.append_assoc, whole, cut]
  · rw [List.flatten_append, Text.byteLength_append, ← offset]
    rfl

/-- What has been taken lies in front of what is left. -/
theorem between (h : i.Of source) : source.Between ⟨i.offset, i.rest.flatten⟩ := by
  obtain ⟨taken, cut, offset⟩ := h
  rw [offset]
  exact Text.between_of_clusters cut

/-- The text at the offset of an input is the text of its units. -/
theorem positionAt? (h : i.Of source) :
    source.positionAt? i.offset = some ⟨i.offset, i.rest.flatten⟩ :=
  Text.positionAt?_eq_some_iff.2 ⟨h.between.reaches, rfl⟩

/-- Reading stands between clusters. -/
theorem mem_boundaries (h : i.Of source) : i.offset ∈ source.boundaries :=
  (Text.between_iff h.between.reaches).1 h.between

/-- Nothing is left only at the end of the source. -/
theorem offset_of_nil (h : i.Of source) (done : i.rest = []) : i.offset = source.byteLength := by
  obtain ⟨taken, cut, offset⟩ := h
  rw [offset, ← Text.clusters_flatten source, cut, done, List.append_nil]

/-- Units are clusters of the source. -/
theorem mem_clusters (h : i.Of source) {unit : Text} (mem : unit ∈ i.rest) :
    unit ∈ source.clusters := by
  obtain ⟨taken, cut, _⟩ := h
  rw [cut]
  exact List.mem_append_right _ mem

/-- Clusters are not empty. -/
theorem ne_nil (h : i.Of source) {unit : Text} (mem : unit ∈ i.rest) : unit ≠ [] :=
  Text.ne_nil_of_mem_clusters (h.mem_clusters mem)

end Of

/-- The text of the units that are skipped lies between the two positions. -/
theorem after?_take (i : Input) (count : Nat) :
    Position.after? ⟨i.offset, i.rest.flatten⟩ (i.rest.take count).flatten =
      some ⟨(i.skip count).offset, (i.skip count).rest.flatten⟩ := by
  refine Position.after?_eq_some_iff.2 ⟨?_, rfl⟩
  rw [← List.flatten_append]
  exact congrArg List.flatten (List.take_append_drop count i.rest).symm

theorem offset_le_skip (i : Input) (count : Nat) : i.offset ≤ (i.skip count).offset :=
  Nat.le_add_right _ _

/-- The input is left of a source behind a unit that begins at the boundary `start`. -/
structure Past (source : Text) (start : Nat) (i : Input) : Prop where
  of : i.Of source
  begins : start ∈ source.boundaries
  lt : start < i.offset

/-- Skipping moves forward as long as units are left. -/
theorem Of.past_skip (h : i.Of source) {unit : Text} {rest : List Text}
    (units : i.rest = unit :: rest) (count : Nat) : (i.skip (count + 1)).Past source i.offset := by
  refine ⟨h.skip _, h.mem_boundaries, ?_⟩
  have filled : 0 < unit.byteLength :=
    Text.byteLength_pos (h.ne_nil (units ▸ List.mem_cons_self))
  have moved : (i.skip (count + 1)).offset =
      i.offset + (unit.byteLength + Text.byteLength (rest.take count).flatten) := by
    rw [Input.skip, units, List.take_succ_cons, List.flatten_cons, Text.byteLength_append]
  omega

/-- A span that passes at its first unit takes it. -/
theorem Of.past_spanWhile (h : i.Of source) {unit : Text} {rest : List Text}
    (units : i.rest = unit :: rest) {test : Text → Bool} (pass : test unit = true) :
    (i.spanWhile test).2.Past source i.offset := by
  have taken : i.rest.takeWhile test = unit :: rest.takeWhile test := by
    rw [units, List.takeWhile_cons_of_pos pass]
  rw [spanWhile, taken]
  exact h.past_skip units _

/-- To accept something is to take a unit. -/
theorem Of.past_accept? (h : i.Of source) {c : Char} (found : i.accept? c = some j) :
    j.Past source i.offset := by
  rw [accept?] at found
  split at found
  case isTrue first =>
    obtain ⟨rest, units⟩ := List.head?_eq_some_iff.1 first
    cases found
    exact h.past_skip units 0
  case isFalse => cases found

/-- Only at the end is there no unit to skip. -/
theorem eq_nil_of_offset_eq (h : i.Of source) (same : i.offset = (i.skip 1).offset) :
    i.rest = [] := by
  cases units : i.rest with
  | nil => rfl
  | cons unit rest =>
    have moved : i.offset < (i.skip 1).offset := (h.past_skip units 0).lt
    omega

namespace Past

/-- Further on from somewhere past a boundary is past it. -/
theorem trans (h : i.Past source start) (h' : j.Past source i.offset) : j.Past source start :=
  ⟨h'.of, h.begins, Nat.lt_trans h.lt h'.lt⟩

theorem skip (h : i.Past source start) (count : Nat) : (i.skip count).Past source start :=
  ⟨h.of.skip count, h.begins, Nat.lt_of_lt_of_le h.lt (i.offset_le_skip count)⟩

theorem spanWhile (h : i.Past source start) (test : Text → Bool) :
    (i.spanWhile test).2.Past source start :=
  h.skip _

theorem spanUpTo (h : i.Past source start) (limit : Nat) (test : Text → Bool) :
    (i.spanUpTo limit test).2.Past source start :=
  h.skip _

theorem spanDigits (h : i.Past source start) (radix : Radix) :
    (i.spanDigits radix).2.Past source start :=
  h.spanWhile _

theorem accept? {c : Char} (h : i.Past source start) (found : i.accept? c = some j) :
    j.Past source start :=
  h.trans (h.of.past_accept? found)

theorem acceptAll? {text : Text} (h : i.Past source start) (found : i.acceptAll? text = some j) :
    j.Past source start := by
  induction text generalizing i with
  | nil =>
    cases found
    exact h
  | cons c text ih =>
    obtain ⟨i', first, found⟩ := Option.bind_eq_some_iff.1 found
    exact ih (h.accept? first) found

/-- Whoever moves forward has fewer units left. -/
theorem length_lt (h : i.Of source) (h' : j.Past source i.offset) :
    j.rest.length < i.rest.length := by
  obtain ⟨taken, cut, offset⟩ := h
  obtain ⟨taken', cut', offset'⟩ := h'.of
  by_contra less
  -- otherwise `j` would be left behind fewer clusters than `i`
  have size := congrArg List.length (cut.symm.trans cut')
  rw [List.length_append, List.length_append] at size
  have front : taken' <+: taken :=
    List.prefix_of_prefix_length_le ⟨j.rest, cut'.symm⟩ ⟨i.rest, cut.symm⟩ (by omega)
  obtain ⟨more, rfl⟩ := front
  have moved := h'.lt
  rw [offset, offset', List.flatten_append, Text.byteLength_append] at moved
  omega

end Past

end Input

/-! ## Errors and results -/

/-- The bytes that an error concerns are whole clusters of the source, and there are none only at
its end. -/
structure ReadError.Placed (source : Text) (e : ReadError) : Prop where
  first_mem : e.first ∈ source.boundaries
  last_mem : e.last ∈ source.boundaries
  first_le : e.first ≤ e.last
  at_end : e.first = e.last → e.first = source.byteLength

namespace Input

/-- An error from an earlier boundary up to here concerns whole clusters. -/
theorem Past.errorFrom (h : i.Past source start) (fault : ReadFault) :
    (i.errorFrom fault start).Placed source where
  first_mem := h.begins
  last_mem := h.of.mem_boundaries
  first_le := Nat.le_of_lt h.lt
  at_end same := absurd same (Nat.ne_of_lt h.lt)

/-- An error about what comes next concerns one cluster, or the end. -/
theorem Of.errorHere (h : i.Of source) (fault : ReadFault) :
    (i.errorHere fault).Placed source where
  first_mem := h.mem_boundaries
  last_mem := (h.skip 1).mem_boundaries
  first_le := i.offset_le_skip 1
  at_end same := h.offset_of_nil (eq_nil_of_offset_eq h same)

end Input

namespace Text

variable {α β : Type} {P : α → Prop} {x : Except ReadError α}

/-- The result has a property, or the error is placed in the source. -/
def Reads (source : Text) (P : α → Prop) : Except ReadError α → Prop
  | .ok a => P a
  | .error e => e.Placed source

/-- What is found has a property and the input is left behind the unit that begins at `start`, or
the error is placed in the source. -/
def Yields (source : Text) (start : Nat) (P : α → Prop) (x : Except ReadError (α × Input)) :
    Prop :=
  source.Reads (fun found => P found.1 ∧ found.2.Past source start) x

theorem Reads.of_eq_ok {a : α} (h : source.Reads P x) (found : x = .ok a) : P a := by
  rwa [found] at h

theorem Reads.of_eq_error {e : ReadError} (h : source.Reads P x) (failed : x = .error e) :
    e.Placed source := by
  rwa [failed] at h

/-- What is known of a result is known when reading goes on; errors are passed on as they are. -/
theorem Reads.bind {Q : β → Prop} {f : α → Except ReadError β} (h : source.Reads P x)
    (later : ∀ a, P a → source.Reads Q (f a)) : source.Reads Q (x >>= f) := by
  cases x with
  | error e => exact h
  | ok a => exact later a h

/-- The same with the input that is left. -/
theorem Yields.bind {Q : β → Prop} {x : Except ReadError (α × Input)}
    {f : α × Input → Except ReadError β} (h : source.Yields start P x)
    (later : ∀ a j, P a → j.Past source start → source.Reads Q (f (a, j))) :
    source.Reads Q (x >>= f) :=
  Reads.bind h fun found fine => later found.1 found.2 fine.1 fine.2

theorem Reads.imp {Q : α → Prop} (h : source.Reads P x) (weaker : ∀ a, P a → Q a) :
    source.Reads Q x := by
  cases x with
  | error e => exact h
  | ok a => exact weaker a h

/-- What is known of every result there is can be added. -/
theorem Reads.and {Q : α → Prop} (h : source.Reads P x)
    (also : ∀ a, x = .ok a → Q a) : source.Reads (fun a => P a ∧ Q a) x := by
  cases x with
  | error e => exact h
  | ok a => exact ⟨h, also a rfl⟩

/-- Whoever starts behind a unit ends behind it. -/
theorem Yields.trans {x : Except ReadError (α × Input)} (h : source.Yields j.offset P x)
    (moved : j.Past source start) : source.Yields start P x :=
  Reads.imp h fun _ fine => ⟨fine.1, moved.trans fine.2⟩

end Text

/-! ## Steps that all reading shares -/

namespace Input

/-- A single scalar is taken, or what stands in its place is the error. -/
theorem Past.expect (h : i.Past source start) (c : Char) :
    source.Reads (Past source start) (i.expect c) := by
  rw [Input.expect]
  split
  case h_1 j found => exact h.accept? found
  case h_2 => exact h.of.errorHere _

/-- A fault is given the place from which it was read. -/
theorem Past.locate {α : Type} {x : Except ReadFault α} (h : i.Past source start) :
    source.Reads (fun a => x = .ok a) (i.locate start x) := by
  cases x with
  | error fault => exact h.errorFrom fault
  | ok a => exact rfl

end Input

end GraphemeRegex
