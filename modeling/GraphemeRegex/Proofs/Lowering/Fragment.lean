import GraphemeRegex.Lowering.Compile
import GraphemeRegex.Proofs.Lowering.Segments

/-! # Fragments — where the code of a pattern stands

A fragment says what stands in a program between two cursors. Each construct of patterns is a
combination of fragments, so the code of a pattern is described by recursion on it, without labels
and builders.

* `Fragment`: the combinations, one for each construct.
* `Loop.Stands`: the code of a loop.
* `Pattern.fragment`: the code of a pattern at a level.
* `Pattern.fragment_forward`: code does not lie in front of where it begins.
-/

namespace GraphemeRegex

/-- What stands in a program between two cursors. -/
abbrev Fragment := Program → Cursor → Cursor → Prop

/-! ## Loops -/

/-- The code of a loop stands between two cursors, with its labels at the given places and its body
between the cursors `first` and `last`. -/
structure Loop.Stands (l : Loop) (body : Fragment) (p : Program) (c c' : Cursor)
    (required pass optional : Nat) (first last : Cursor) : Prop where
  prologue : p.Segment c.ip l.prologue required
  requirement : p.Segment required (l.requirement optional) pass
  passHead : p.Segment pass l.passHead first.ip
  first_counters : first.counters = c.counters
  first_marks : first.marks = c.marks
  body : body p first last
  passTail : p.Segment last.ip (l.passTail required) optional
  policy : p.Segment optional (l.policy pass c'.ip) c'.ip
  last_counters : c'.counters = last.counters
  last_marks : c'.marks = last.marks

/-! ## Combinations -/

namespace Fragment

/-- No code. -/
def nothing : Fragment := fun _ c c' => c' = c

/-- A construct that has no code. -/
def never : Fragment := fun _ _ _ => False

/-- Some instructions. -/
def code (l : List (Instruction Nat)) : Fragment := fun p c c' =>
  p.CodeAt c.ip l ∧ c' = c.advance l.length

/-- The instruction that consumes a constant text. -/
def string (text : Text) (level : MatchLevel) : Fragment := fun p c c' =>
  ∃ id, p.strings.get? id = some text ∧ code [.matchString id level] p c c'

/-- One fragment behind the other. -/
def append (F G : Fragment) : Fragment := fun p c c' =>
  ∃ middle, F p c middle ∧ G p middle c'

/-- Fragments one behind the other. -/
def all : List Fragment → Fragment
  | [] => nothing
  | F :: Fs => F.append (all Fs)

/-- A body between a fence and a cut. -/
def fenced (rewind : Bool) (F : Fragment) : Fragment :=
  (code [.fence]).append (F.append (code [.cut rewind]))

/-- A body whose success is a failure; its failure resumes behind the code. -/
def negated (F : Fragment) : Fragment := fun p c c' =>
  (code [.save c'.ip, .fence]).append (F.append (code [.cut false, .clear, .fail])) p c c'

/-- Branches that are tried in order; all but the last jump to `done`. -/
def branches (done : Nat) : List Fragment → Fragment
  | [] => nothing
  | [F] => F
  | F :: G :: Fs => fun p c c' => ∃ last : Cursor,
    p.code[c.ip]? = some (.save (last.ip + 1)) ∧ F p (c.advance 1) last ∧
      p.code[last.ip]? = some (.branch done) ∧ branches done (G :: Fs) p (last.advance 1) c'

/-- Branches that meet behind the last of them. -/
def alternation (Fs : List Fragment) : Fragment := fun p c c' => branches c'.ip Fs p c c'

/-- A body that is repeated, behind the registers of the loop. -/
def repeated (amount : Amount) (greed : Greed) (mayBeEmpty : Bool) (F : Fragment) : Fragment :=
  fun p c c' => LoopRegisters.Held amount mayBeEmpty p c ∧
    ∃ (required pass optional : Nat) (first last : Cursor),
      Loop.Stands ⟨amount, greed, LoopRegisters.numbered amount mayBeEmpty c⟩ F p
        (LoopRegisters.after amount mayBeEmpty c) c' required pass optional first last

end Fragment

/-! ## Patterns -/

/-- The code of an atom at a level. -/
def Atom.fragment (level : MatchLevel) : Atom → Fragment
  | any =>
    match level with
    | .grapheme => .code [.advance 1]
    | .scalar => .code [.consume .anyScalar level]
  | char text => .code [.matchText text level]
  | scalar c => .code [.matchText [c] level]
  | cls family => .code [.consume family level]
  | property _ _ | anchor _ | backreference _ => .never

/-- The code of a group with a body. -/
def GroupKind.fragment (F : Fragment) : GroupKind → Fragment
  | capture | named _ | nonCapture | branchReset | options _ _ => F
  | atomic => F.fenced false
  | lookahead => F.fenced true
  | negativeLookahead => F.negated
  | nonAtomicLookahead | lookbehind | negativeLookbehind | nonAtomicLookbehind | scriptRun
  | atomicScriptRun => .never

namespace Pattern

mutual

/-- The code of a pattern whose classes are all tested at one level. -/
def fragment (level : MatchLevel) : Pattern → Fragment
  | alternation branches => .alternation (fragments level branches)
  | concatenation items => .all (fragments level items)
  | group kind body => kind.fragment (fragment level body)
  | transformed _ _ body => fragment level body
  | repetition amount greed body =>
    if amount.isDegenerate then .nothing
    else .repeated amount greed body.mayBeEmpty (fragment level body)
  | quote text => .string text level
  | trivia _ | empty => .nothing
  | atom a => a.fragment level
  | leveled cls _ => .code [.consume cls level]
  | custom _ _ => .never

/-- The code of each pattern of a list. -/
def fragments (level : MatchLevel) : List Pattern → List Fragment
  | [] => []
  | p :: ps => fragment level p :: fragments level ps

end

end Pattern

/-! ## Order -/

namespace Fragment

/-- The fragment does not end in front of where it begins. -/
def Forward (F : Fragment) : Prop := ∀ p c c', F p c c' → c.Le c'

variable {F G : Fragment}

/-- Without code the cursor stays where it is. -/
theorem forward_nothing : nothing.Forward := by
  rintro p c _ rfl
  exact .refl _

theorem forward_never : never.Forward := fun _ _ _ h => absurd h id

/-- Instructions take up space. -/
theorem forward_code (l : List (Instruction Nat)) : (code l).Forward := by
  rintro p c _ ⟨_, rfl⟩
  exact c.le_advance _

theorem forward_string (text : Text) (level : MatchLevel) : (string text level).Forward := by
  rintro p c c' ⟨id, _, h⟩
  exact forward_code _ p c c' h

/-- Going forward is passed on by composition, and with it by all combinations below. -/
theorem forward_append (hF : F.Forward) (hG : G.Forward) : (F.append G).Forward := by
  rintro p c c' ⟨middle, h, h'⟩
  exact (hF p c middle h).trans (hG p middle c' h')

/-- Fragments one behind the other go forward if each of them does. -/
theorem forward_all {Fs : List Fragment} (h : ∀ F ∈ Fs, F.Forward) : (all Fs).Forward := by
  induction Fs with
  | nil => exact forward_nothing
  | cons F Fs ih =>
    refine forward_append (h F (by simp)) (ih ?_)
    intro G mem
    exact h G (by simp [mem])

/-- A fence, the body and a cut. -/
theorem forward_fenced (rewind : Bool) (hF : F.Forward) : (F.fenced rewind).Forward :=
  forward_append (forward_code _) (forward_append hF (forward_code _))

/-- The code around a negated body depends on where it ends, but its two ends do not. -/
theorem forward_negated (hF : F.Forward) : F.negated.Forward := fun p c c' h =>
  forward_append (forward_code _) (forward_append hF (forward_code _)) p c c' h

/-- Branches go forward one by one, with the jumps between them. -/
theorem forward_branches (done : Nat) {Fs : List Fragment} (h : ∀ F ∈ Fs, F.Forward) :
    (branches done Fs).Forward := by
  induction Fs with
  | nil => exact forward_nothing
  | cons F Fs ih =>
    cases Fs with
    | nil => exact h F (by simp)
    | cons G Fs =>
      rintro p c c' ⟨last, _, body, _, later⟩
      -- the branches behind the first one lie behind its jump
      have rest : (branches done (G :: Fs)).Forward := ih fun H mem => h H (by simp [mem])
      exact ((c.le_advance 1).trans (h F (by simp) _ _ _ body)).trans
        ((last.le_advance 1).trans (rest _ _ _ later))

/-- All branches lie in front of where they meet. -/
theorem forward_alternation {Fs : List Fragment} (h : ∀ F ∈ Fs, F.Forward) :
    (alternation Fs).Forward := fun p c c' h' => forward_branches c'.ip h p c c' h'

/-- A loop goes forward: over its registers, its five segments and its body. -/
theorem forward_repeated (amount : Amount) (greed : Greed) (mayBeEmpty : Bool)
    (hF : F.Forward) : (repeated amount greed mayBeEmpty F).Forward := by
  rintro p c c' ⟨_, required, pass, optional, first, last, h⟩
  refine (LoopRegisters.le_after amount mayBeEmpty c).trans ?_
  have body := hF _ _ _ h.body
  constructor
  case ip =>
    -- the segments in front of the body, the body and those behind it
    have head := Nat.le_trans h.prologue.le (Nat.le_trans h.requirement.le h.passHead.le)
    have tail := Nat.le_trans h.passTail.le h.policy.le
    exact Nat.le_trans head (Nat.le_trans body.ip tail)
  case counters =>
    rw [h.last_counters, ← h.first_counters]
    exact body.counters
  case marks =>
    rw [h.last_marks, ← h.first_marks]
    exact body.marks

end Fragment

open Fragment

/-- An atom is one instruction or has no code. -/
theorem Atom.fragment_forward (level : MatchLevel) (a : Atom) : (a.fragment level).Forward := by
  cases a <;> cases level <;>
    first | exact forward_code _ | exact forward_never

/-- A group goes forward if its body does, whatever code the group adds. -/
theorem GroupKind.fragment_forward {F : Fragment} (kind : GroupKind) (hF : F.Forward) :
    (kind.fragment F).Forward := by
  cases kind <;>
    first
    | exact hF
    | exact forward_fenced _ hF
    | exact forward_negated hF
    | exact forward_never

namespace Pattern

mutual

/-- The code of a pattern does not end in front of where it begins. -/
theorem fragment_forward (level : MatchLevel) : ∀ t : Pattern, (t.fragment level).Forward
  | alternation branches => forward_alternation (fragments_forward level branches)
  | concatenation items => forward_all (fragments_forward level items)
  | group kind body => kind.fragment_forward (fragment_forward level body)
  | transformed _ _ body => fragment_forward level body
  | repetition amount greed body => by
    rw [fragment]
    split
    · exact forward_nothing
    · exact forward_repeated _ _ _ (fragment_forward level body)
  | quote text => forward_string text level
  | trivia _ | empty => forward_nothing
  | atom a => a.fragment_forward level
  | leveled cls _ => forward_code _
  | custom _ _ => forward_never

theorem fragments_forward (level : MatchLevel) :
    ∀ ts : List Pattern, ∀ F ∈ fragments level ts, F.Forward
  | [] => fun _ mem => absurd mem List.not_mem_nil
  | t :: ts => fun F mem => by
    rcases List.mem_cons.1 mem with rfl | mem
    · exact fragment_forward level t
    · exact fragments_forward level ts F mem

end

end Pattern

end GraphemeRegex
