import GraphemeRegex.Machine.Run
import GraphemeRegex.Proofs.Lowering.Emission
import GraphemeRegex.Proofs.Lowering.Keeping
import GraphemeRegex.Proofs.Machine.Fitting

/-! # Safety — compiled patterns do not fault

Compiling a pattern either stops at a construct that has no code, or makes a program. However the
program is run, it does not turn out not to be well formed.

* `Machine.NeverFaults`: no state of a run faults.
* `Pattern.Compiled.neverFaults`: the program of a pattern never faults.
* `Pattern.compile_safe`: what compiling can come to.
-/

namespace GraphemeRegex

namespace Machine

/-- A run from a position of the subject only comes to states whose position is one of the subject,
and from which the next step does not fault. -/
def NeverFaults (m : Machine) (start : Position) : Prop :=
  ∀ s, m.Visits (.initial m.program start) s →
    (∀ f, m.step s ≠ .fault f) ∧ m.subject.positionAt? s.pos.offset = some s.pos

variable {m : Machine} {limits : Limits} {start : Position} {s s₀ : State}

/-- No limits let a run come to a fault. -/
theorem runFrom_ne_fault (safe : ∀ t, m.Visits s₀ t → ∀ f, m.step t ≠ .fault f)
    (visits : m.Visits s₀ s) (fuel : Nat) (f : MachineFault) :
    m.runFrom limits fuel s ≠ .error (.machine f) := by
  intro ran
  obtain ⟨t, visits, faults⟩ := (exists_end_of_runFrom visits).2 f ran
  exact safe t visits f faults

theorem NeverFaults.run_ne_fault (h : m.NeverFaults start) (limits : Limits) (f : MachineFault) :
    m.run limits start ≠ .error (.machine f) :=
  runFrom_ne_fault (fun t visits => (h t visits).1) .refl limits.fuel f

end Machine

namespace Pattern

/-- The program of a pattern keeps to its shapes from its start, and it is never left. -/
theorem Compiled.keeps {level : MatchLevel} {t : Pattern} {p : Program} {stop : Cursor}
    (h : t.Compiled level p stop) : p.Keeps (fun _ => True) (fun _ _ => False) 0 [] :=
  fragment_keeps level t [] rfl p .start stop h.code _ (fun _ _ _ => trivial) _
    (.of_code trivial h.accept .accept)

/-- The program of a pattern never faults. -/
theorem Compiled.neverFaults {level : MatchLevel} {t : Pattern} {m : Machine} {stop : Cursor}
    (h : t.Compiled level m.program stop) {start : Position}
    (inside : m.subject.start.Reaches start) : m.NeverFaults start := by
  intro s visits
  have sized {t : State} (before : m.Visits (.initial m.program start) t) : t.Sized m.program :=
    (State.fits_of_visits before).sized
  have obeys : s.Obeys (m.program.Keeps (fun _ => True) fun _ _ => False) [] := by
    induction visits with
    | refl => exact ⟨[], h.keeps, .base⟩
    | step before next ih =>
      have step := ih.step (fun _ _ => Program.Keeps.exists_code) (sized before)
      rw [next] at step
      -- nothing lies below the shape in which a run begins
      exact step.resolve_right fun bottom => nomatch bottom
  constructor
  · intro f fault
    have step := obeys.step (fun _ _ => Program.Keeps.exists_code) (sized visits)
    rw [fault] at step
    exact step
  · exact Text.positionAt?_eq_some_iff.2
      ⟨inside.trans (State.fits_of_visits visits).now.pos, rfl⟩

/-- Compiling stops at a construct that is not supported, or it makes a program. The program never
faults, in whatever subject, from whichever position and within whatever limits it is run. -/
theorem compile_safe (level : MatchLevel) (t : Pattern) :
    (∃ u, t.compile level = .error (.unsupported u)) ∨
      ∃ p : Program, t.compile level = .ok p ∧
        ∀ (subject : Text) (offset : Nat) (start : Position) (acceptAtEnd : Bool),
          subject.positionAt? offset = some start →
            Machine.NeverFaults ⟨p, subject, acceptAtEnd⟩ start ∧
              ∀ (limits : Limits) (f : MachineFault),
                Machine.runAt ⟨p, subject, acceptAtEnd⟩ limits offset ≠ .error (.machine f) := by
  rcases compile_cases level t with unsupported | ⟨p, stop, ends, compiled⟩
  · exact .inl unsupported
  · refine .inr ⟨p, ends, ?_⟩
    intro subject offset start acceptAtEnd found
    have inside := (Text.positionAt?_eq_some_iff.1 found).1
    have safe := Compiled.neverFaults (m := ⟨p, subject, acceptAtEnd⟩) compiled inside
    refine ⟨safe, ?_⟩
    intro limits f
    rw [Machine.runAt, found]
    exact safe.run_ne_fault limits f

end Pattern

end GraphemeRegex
