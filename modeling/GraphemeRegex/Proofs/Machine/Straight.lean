import GraphemeRegex.Machine.Run
import GraphemeRegex.Proofs.Machine.Stack
import GraphemeRegex.Proofs.Program.Layout

/-! # Straight code — instructions that only consume

Where instructions do nothing but consume what comes next, they succeed one after the other or the
run falls back. If there is nothing to fall back to, a run that accepts behind them makes one step
for each.

* `Machine.Takes`: an instruction that only consumes.
* `Machine.behind?`: the position behind what instructions consume one after the other.
* `Machine.runFrom_straight`, `Machine.run_straight`: the run of such instructions, with one that
  accepts behind them.
-/

namespace GraphemeRegex

namespace Machine

/-- The instruction goes on behind what it consumes, or falls back if there is nothing to
consume. -/
structure Takes (m : Machine) (i : Instruction Nat) : Prop where
  keeps : i.pushes = false
  takes : ∀ s, m.execute s i = s.afterConsuming (i.consumes? m s.pos)

/-- The position behind what instructions consume one after the other, if all of them succeed. -/
def behind? (m : Machine) : List (Instruction Nat) → Position → Option Position
  | [], p => some p
  | i :: code, p => (i.consumes? m p).bind fun taken => m.behind? code taken.2

variable {m : Machine}

theorem takes_matchText (text : Text) (level : MatchLevel) : m.Takes (.matchText text level) :=
  ⟨rfl, fun _ => rfl⟩

theorem takes_matchString {id : StringId} {text : Text} (level : MatchLevel)
    (found : m.program.strings.get? id = some text) : m.Takes (.matchString id level) := by
  refine ⟨rfl, fun s => ?_⟩
  have inside : id.index < m.program.strings.size := (Array.getElem?_eq_some_iff.1 found).1
  rw [execute, if_pos inside]

/-- One instruction that does not push is one unit of fuel. -/
theorem runFrom_succ_of_code {limits : Limits} {fuel : Nat} {s : State} {i : Instruction Nat}
    (code : m.program.code[s.ip]? = some i) (keeps : i.pushes = false) :
    m.runFrom limits (fuel + 1) s =
      match m.execute s i with
      | .next t => m.runFrom limits fuel t
      | .halt result => .ok result
      | .fault f => .error (.machine f) := by
  have fits : m.overflows limits s = false := by
    rw [overflows, pushesNext, code, Option.any_some, keeps, Bool.false_and]
  rw [runFrom, fits, step_of_code code]
  rfl

/-- Without anything to fall back to, a program that only consumes and then accepts finds the
position behind what it consumes, if it accepts that. -/
theorem runFrom_straight {code : List (Instruction Nat)} (straight : ∀ i ∈ code, m.Takes i)
    (limits : Limits) {fuel : Nat} {s : State} (enough : code.length < fuel)
    (stands : m.program.CodeAt s.ip (code ++ [.accept])) (bottom : s.stack = .empty) :
    m.runFrom limits fuel s = .ok ((m.behind? code s.pos).filter m.acceptsAt) := by
  -- below the run there is nothing to resume
  have back : s.backtrack = .halt none := by
    rw [State.backtrack, bottom]
    rfl
  induction code generalizing fuel s with
  | nil =>
    obtain ⟨fuel, rfl⟩ := Nat.exists_eq_add_one_of_ne_zero (Nat.ne_of_gt enough)
    rw [runFrom_succ_of_code stands.1 rfl, execute, back, behind?]
    by_cases accepts : m.acceptsAt s.pos = true <;> simp [accepts, Option.filter_some]
  | cons i code ih =>
    obtain ⟨fuel, rfl⟩ := Nat.exists_eq_add_one_of_ne_zero (Nat.ne_of_gt (Nat.zero_lt_of_lt enough))
    have first := straight i List.mem_cons_self
    rw [runFrom_succ_of_code stands.1 first.keeps, first.takes, behind?]
    cases i.consumes? m s.pos with
    | none =>
      rw [State.afterConsuming, back]
      rfl
    | some taken =>
      have later : ∀ i ∈ code, m.Takes i := fun i mem => straight i (List.mem_cons_of_mem _ mem)
      exact ih later (s := { s with pos := taken.2, ip := s.ip + 1 })
        (Nat.lt_of_succ_lt_succ enough) stands.2 bottom back

/-- A run of a program that only consumes and then accepts. -/
theorem run_straight {code : List (Instruction Nat)} (straight : ∀ i ∈ code, m.Takes i)
    (whole : m.program.code.toList = code ++ [.accept]) {limits : Limits}
    (enough : code.length < limits.fuel) (p : Position) :
    m.run limits p = .ok ((m.behind? code p).filter m.acceptsAt) := by
  have stands : m.program.CodeAt 0 (code ++ [.accept]) := by
    apply Program.codeAt_of_getElem?
    intro n i found
    rw [Nat.zero_add, ← Array.getElem?_toList, whole]
    exact found
  exact runFrom_straight straight limits enough stands rfl

end Machine

end GraphemeRegex
