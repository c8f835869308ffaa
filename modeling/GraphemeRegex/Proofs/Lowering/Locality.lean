import GraphemeRegex.Proofs.Lowering.Fragment

/-! # Locality — code stands where it stands, whatever follows

What stands between two cursors depends on nothing behind them. So the code of a part of a pattern
stands in every program that agrees up to the end of the part, also in one that does something else
there.

* `Program.AgreesUpTo`: another program begins with the same code.
* `Fragment.Local`: a fragment that stands in all of these programs.
* `Pattern.fragment_local`: the code of a pattern.
-/

namespace GraphemeRegex

/-- Another program has the code of `p` up to an index, and the texts and registers of `p`. -/
structure Program.AgreesUpTo (p p' : Program) (stop : Nat) : Prop where
  code : ∀ ip i, ip < stop → p.code[ip]? = some i → p'.code[ip]? = some i
  strings : p'.strings = p.strings
  counters : p'.counters = p.counters
  marks : p'.marks = p.marks

/-- The fragment stands in every program that agrees up to where it ends. -/
def Fragment.Local (F : Fragment) : Prop :=
  ∀ (p p' : Program) (c c' : Cursor), F p c c' → p.AgreesUpTo p' c'.ip → F p' c c'

/-! ## Lists of instructions -/

namespace Program

variable {p p' : Program} {stop : Nat}

/-- What agrees up to a place agrees up to each place in front of it. -/
theorem AgreesUpTo.mono (agrees : p.AgreesUpTo p' stop) {stop' : Nat} (le : stop' ≤ stop) :
    p.AgreesUpTo p' stop' where
  code ip i inside := agrees.code ip i (Nat.lt_of_lt_of_le inside le)
  strings := agrees.strings
  counters := agrees.counters
  marks := agrees.marks

/-- Instructions stand in the other program if the last of them does not lie behind the place. -/
theorem CodeAt.of_agreesUpTo {ip : Nat} {l : List (Instruction Nat)} (h : p.CodeAt ip l)
    (agrees : p.AgreesUpTo p' stop) (inside : ip + l.length ≤ stop) : p'.CodeAt ip l := by
  induction l generalizing ip with
  | nil => trivial
  | cons i l ih =>
    rw [List.length_cons] at inside
    exact ⟨agrees.code ip i (by omega) h.1, ih h.2 (by omega)⟩

/-- The segments of a loop stand there, too, if they end before the place. -/
theorem Segment.of_agreesUpTo {ip last : Nat} {l : List (Instruction Nat)}
    (h : p.Segment ip l last) (agrees : p.AgreesUpTo p' stop) (inside : last ≤ stop) :
    p'.Segment ip l last :=
  ⟨h.1.of_agreesUpTo agrees (h.2 ▸ inside), h.2⟩

end Program

/-! ## Combinations -/

namespace Fragment

variable {F G : Fragment} {Fs : List Fragment}

/-- Each combination is local if its parts are. -/
theorem local_nothing : nothing.Local := fun _ _ _ _ h _ => h

theorem local_never : never.Local := fun _ _ _ _ h _ => absurd h id

theorem local_code (l : List (Instruction Nat)) : (code l).Local := by
  rintro p p' c _ ⟨stands, rfl⟩ agrees
  exact ⟨stands.of_agreesUpTo agrees (Nat.le_refl _), rfl⟩

/-- The texts of the other program are the same, so the number of a text is. -/
theorem local_string (text : Text) (level : MatchLevel) : (string text level).Local := by
  rintro p p' c c' ⟨id, found, stands⟩ agrees
  refine ⟨id, ?_, local_code _ p p' c c' stands agrees⟩
  rw [agrees.strings]
  exact found

/-- Since the second part does not lie in front of its beginning, the first one is still inside. -/
theorem local_append (hF : F.Local) (hG : G.Local) (forward : G.Forward) :
    (F.append G).Local := by
  rintro p p' c c' ⟨middle, first, second⟩ agrees
  have behind : middle.ip ≤ c'.ip := (forward p middle c' second).ip
  exact ⟨middle, hF p p' c middle first (agrees.mono behind), hG p p' middle c' second agrees⟩

/-- By induction on the parts; where the others lie is known because they go forward. -/
theorem local_all (h : ∀ F ∈ Fs, F.Local) (forward : ∀ F ∈ Fs, F.Forward) : (all Fs).Local := by
  induction Fs with
  | nil => exact local_nothing
  | cons F Fs ih =>
    have onward : ∀ G ∈ Fs, G.Forward := fun G mem => forward G (List.mem_cons_of_mem F mem)
    refine local_append (h F List.mem_cons_self) (ih ?_ onward) (forward_all onward)
    intro G mem
    exact h G (List.mem_cons_of_mem F mem)

/-- Code in front of a body and behind it. -/
theorem local_around (hF : F.Local) (forward : F.Forward) (head tail : List (Instruction Nat)) :
    ((code head).append (F.append (code tail))).Local :=
  local_append (local_code head) (local_append hF (local_code tail) (forward_code tail))
    (forward_append forward (forward_code tail))

/-- A fence and a cut around a body. -/
theorem local_fenced (rewind : Bool) (hF : F.Local) (forward : F.Forward) :
    (F.fenced rewind).Local :=
  local_around hF forward [.fence] [.cut rewind]

/-- The code around a negated body. -/
theorem local_negated (hF : F.Local) (forward : F.Forward) : F.negated.Local := fun p p' c c' =>
  local_around hF forward [.save c'.ip, .fence] [.cut false, .clear, .fail] p p' c c'

/-- The jumps between the branches and the branches themselves. -/
theorem local_branches (done : Nat) (h : ∀ F ∈ Fs, F.Local) (forward : ∀ F ∈ Fs, F.Forward) :
    (branches done Fs).Local := by
  induction Fs with
  | nil => exact local_nothing
  | cons F Fs ih =>
    cases Fs with
    | nil => exact h F List.mem_cons_self
    | cons G Fs =>
      rintro p p' c c' ⟨last, save, body, branch, later⟩ agrees
      -- the other branches, by induction
      have onward : ∀ H ∈ G :: Fs, H.Forward := fun H mem => forward H (List.mem_cons_of_mem F mem)
      have others : (branches done (G :: Fs)).Local := by
        refine ih ?_ onward
        intro H mem
        exact h H (List.mem_cons_of_mem F mem)
      -- the save, this branch and the jump behind it lie in front of them
      have between : c.ip + 1 ≤ last.ip := (forward F List.mem_cons_self p _ last body).ip
      have behind : last.ip + 1 ≤ c'.ip := (forward_branches done onward p _ c' later).ip
      exact ⟨last, agrees.code _ _ (by omega) save,
        h F List.mem_cons_self p p' _ last body (agrees.mono (by omega)),
        agrees.code _ _ (by omega) branch, others p p' _ c' later agrees⟩

theorem local_alternation (h : ∀ F ∈ Fs, F.Local) (forward : ∀ F ∈ Fs, F.Forward) :
    (alternation Fs).Local :=
  fun p p' c c' stands => local_branches c'.ip h forward p p' c c' stands

/-- Each segment of a loop, and the body between two of them. -/
theorem local_repeated (amount : Amount) (greed : Greed) (mayBeEmpty : Bool) (hF : F.Local)
    (forward : F.Forward) : (repeated amount greed mayBeEmpty F).Local := by
  rintro p p' c c' ⟨held, required, pass, optional, first, last, stands⟩ agrees
  have asked : required ≤ pass := stands.requirement.le
  have entered : pass ≤ first.ip := stands.passHead.le
  have between : first.ip ≤ last.ip := (forward p first last stands.body).ip
  have passed : last.ip ≤ optional := stands.passTail.le
  have decided : optional ≤ c'.ip := stands.policy.le
  -- the registers are those of the other program, too
  have held' : LoopRegisters.Held amount mayBeEmpty p' c := by
    unfold LoopRegisters.Held
    rw [agrees.counters, agrees.marks]
    exact held
  exact ⟨held', required, pass, optional, first, last,
    { prologue := stands.prologue.of_agreesUpTo agrees (by omega)
      requirement := stands.requirement.of_agreesUpTo agrees (by omega)
      passHead := stands.passHead.of_agreesUpTo agrees (by omega)
      first_counters := stands.first_counters
      first_marks := stands.first_marks
      body := hF p p' first last stands.body (agrees.mono (by omega))
      passTail := stands.passTail.of_agreesUpTo agrees (by omega)
      policy := stands.policy.of_agreesUpTo agrees (Nat.le_refl _)
      last_counters := stands.last_counters
      last_marks := stands.last_marks }⟩

end Fragment

open Fragment

/-! ## Patterns -/

theorem Atom.fragment_local (level : MatchLevel) (a : Atom) : (a.fragment level).Local := by
  cases a with
  | any => cases level <;> exact local_code _
  | char _ | scalar _ | cls _ => exact local_code _
  | property _ _ | anchor _ | backreference _ => exact local_never

theorem GroupKind.fragment_local {F : Fragment} (kind : GroupKind) (hF : F.Local)
    (forward : F.Forward) : (kind.fragment F).Local := by
  cases kind with
  | capture | named _ | nonCapture | branchReset | options _ _ => exact hF
  | atomic | lookahead => exact local_fenced _ hF forward
  | negativeLookahead => exact local_negated hF forward
  | nonAtomicLookahead | lookbehind | negativeLookbehind | nonAtomicLookbehind | scriptRun
  | atomicScriptRun => exact local_never

namespace Pattern

mutual

/-- The code of a pattern stands in every program that agrees up to where it ends. -/
theorem fragment_local (level : MatchLevel) : ∀ t : Pattern, (t.fragment level).Local
  | alternation branches =>
    local_alternation (fragments_local level branches) (fragments_forward level branches)
  | concatenation items => local_all (fragments_local level items) (fragments_forward level items)
  | group kind body => kind.fragment_local (fragment_local level body) (fragment_forward level body)
  | transformed _ _ body => fragment_local level body
  | repetition amount greed body => by
    rw [fragment]
    split
    · exact local_nothing
    · exact local_repeated _ _ _ (fragment_local level body) (fragment_forward level body)
  | quote text => local_string text level
  | trivia _ | empty => local_nothing
  | atom a => a.fragment_local level
  | leveled _ _ => local_code _
  | custom _ _ => local_never

theorem fragments_local (level : MatchLevel) :
    ∀ ts : List Pattern, ∀ F ∈ fragments level ts, F.Local
  | [] => fun _ mem => absurd mem List.not_mem_nil
  | t :: ts => fun F mem => by
    rcases List.mem_cons.1 mem with rfl | mem
    · exact fragment_local level t
    · exact fragments_local level ts F mem

end

end Pattern

end GraphemeRegex
