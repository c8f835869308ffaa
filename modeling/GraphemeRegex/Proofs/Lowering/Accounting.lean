import GraphemeRegex.Proofs.Lowering.Consuming
import GraphemeRegex.Proofs.Lowering.Ledger
import GraphemeRegex.Proofs.Lowering.Supported
import Mathlib.Algebra.GroupWithZero.Nat
import Mathlib.Control.Monad.Basic

/-! # Accounting — the size of a program, read off its pattern

Each node of a pattern has its own share in the program, whatever lies in it and around it. Loops
that leave nothing to repeat have none, and neither has what lies in them.

* `Pattern.counted`: the nodes that have a share.
* `Pattern.checkpoints`, `Pattern.counterCount`, `Pattern.remembers`, `Pattern.quoted?`: what the
  share of a node is.
* `Pattern.adds_emit`: the ledger of a pattern is that of its nodes.
* `Pattern.compile_accounts`: what that says about a compiled program.
-/

namespace GraphemeRegex

open Emitter

/-! ## Shares -/

/-- How many instructions of a loop push a checkpoint. -/
def Greed.checkpoints : Greed → Nat
  | eager | reluctant => 1
  -- the placeholder in front of the loop, and the fence around its body
  | possessive => 3

/-- How many instructions around the body of a group push a checkpoint. -/
def GroupKind.checkpoints : GroupKind → Nat
  | atomic | lookahead => 1
  | negativeLookahead => 2
  | _ => 0

/-- How many counters a loop needs: one for more than one required pass, and one for optional passes
of a limited number. -/
def Amount.counterCount (amount : Amount) : Nat :=
  (if 1 < amount.low then 1 else 0) + if amount.high?.any (amount.low < ·) then 1 else 0

/-- Each counter has a value to begin with. -/
theorem Amount.length_initials (amount : Amount) :
    (LoopRegisters.initials amount).length = amount.counterCount := by
  rw [LoopRegisters.initials, List.length_append, counterCount, LoopRegisters.optionalPasses?]
  congr 1
  · split <;> rfl
  · cases amount.high? with
    | none => rfl
    | some high =>
      by_cases more : amount.low < high
      · obtain ⟨passes, rfl⟩ : ∃ passes, high = amount.low + (passes + 1) :=
          ⟨high - amount.low - 1, by omega⟩
        simp
      · have none : high - amount.low = 0 := by omega
        simp [more, none]

namespace Pattern

/-- How many instructions of a node, not counting those of its parts, push a checkpoint. -/
def checkpoints : Pattern → Nat
  | alternation branches => branches.length - 1
  | group kind _ => kind.checkpoints
  | repetition _ greed _ => greed.checkpoints
  | _ => 0

/-- How many counters a node needs. -/
def counterCount : Pattern → Nat
  | repetition amount _ _ => amount.counterCount
  | _ => 0

/-- Whether a node is an endless loop that may make passes without consuming anything. -/
def remembers : Pattern → Bool
  | repetition amount _ body => amount.high?.isNone && body.mayBeEmpty
  | _ => false

/-- The text of a node that is a quote. -/
def quoted? : Pattern → Option Text
  | quote text => some text
  | _ => none

/-- Whether a node is a loop that leaves nothing to repeat. -/
def isVoid : Pattern → Bool
  | repetition amount _ _ => amount.isDegenerate
  | _ => false

/-- The live nodes but for loops that leave nothing to repeat. -/
def counted (t : Pattern) : List Pattern :=
  t.liveNodes.filter fun x => !x.isVoid

/-- The same nodes of the patterns of a list. -/
def countedAll (ts : List Pattern) : List Pattern :=
  (liveNodesAll ts).filter fun x => !x.isVoid

/-- A loop that leaves nothing to repeat hides what lies in it. -/
theorem counted_repetition (amount : Amount) (greed : Greed) (body : Pattern) :
    (repetition amount greed body).counted =
      if amount.isDegenerate then [] else repetition amount greed body :: body.counted := by
  rw [counted, liveNodes]
  cases degenerate : amount.isDegenerate <;> simp [isVoid, degenerate, counted]

theorem countedAll_cons (t : Pattern) (ts : List Pattern) :
    countedAll (t :: ts) = t.counted ++ countedAll ts :=
  List.filter_append ..

/-- The share of a node. -/
def entry (t : Pattern) : Ledger :=
  ⟨t.checkpoints, t.counterCount, t.remembers.toNat, t.quoted?.toList⟩

/-- The shares of some nodes together. -/
def ledger (nodes : List Pattern) : Ledger where
  pushes := (nodes.map checkpoints).sum
  counters := (nodes.map counterCount).sum
  marks := nodes.countP remembers
  texts := nodes.filterMap quoted?

/-- Nodes are accounted for one by one. -/
theorem ledger_append (nodes nodes' : List Pattern) :
    ledger (nodes ++ nodes') = ledger nodes ++ ledger nodes' := by
  ext1 <;> simp [ledger]

theorem ledger_cons (t : Pattern) (nodes : List Pattern) :
    ledger (t :: nodes) = t.entry ++ ledger nodes := by
  have single : ledger [t] = t.entry := by
    ext1
    · simp [ledger, entry]
    · simp [ledger, entry]
    · cases remember : t.remembers <;> simp [ledger, entry, remember]
    · cases quoted : t.quoted? <;> simp [ledger, entry, quoted]
  rw [← single, ← ledger_append]
  rfl

end Pattern

/-! ## Loops -/

namespace Loop

variable {α : Type} (l : Loop)

/-- The instructions around the body of a loop that push a checkpoint. -/
theorem countP_pushes (required pass optional exit : α) :
    l.prologue.countP (·.pushes (α := α)) + (l.requirement optional).countP (·.pushes) +
      l.passHead.countP (·.pushes (α := α)) + (l.passTail required).countP (·.pushes) +
      (l.policy pass exit).countP (·.pushes) = l.greed.checkpoints := by
  -- tests and jumps push nothing; what is left depends on the greed alone
  have requirement : (l.requirement optional).countP (·.pushes) = 0 := by
    unfold Loop.requirement
    split
    · rfl
    · split <;> rfl
  have allowance : (l.allowance exit).countP (·.pushes) = 0 := by
    unfold Loop.allowance
    split
    · rfl
    · split <;> rfl
  have tail : (if 1 < l.amount.low then [Instruction.branch required] else []).countP
      (·.pushes) = 0 := by
    split <;> rfl
  rw [passTail, policy, List.countP_append, List.countP_append, List.countP_append,
    List.countP_append, requirement, allowance, tail]
  rcases l with ⟨_, _ | _ | _, ⟨_ | _, _ | _, _ | _⟩⟩ <;> rfl

/-- A loop adds the checkpoints of its own to what its body adds. -/
theorem adds_emit {l : Loop} {e : Emitter Unit} {T : Ledger} (h : e.Adds T)
    (required pass optional exit : Label) :
    (l.emit e required pass optional exit).Adds (Ledger.pushing l.greed.checkpoints ++ T) := by
  -- the segments of the loop, with the labels between them
  have whole : (l.emit e required pass optional exit).Adds _ :=
    (adds_emitList l.prologue).bind fun _ => (adds_place required).bind fun _ =>
      (adds_emitList (l.requirement optional)).bind fun _ => (adds_place pass).bind fun _ =>
      (adds_emitList l.passHead).bind fun _ => h.bind fun _ =>
      (adds_emitList (l.passTail required)).bind fun _ => (adds_place optional).bind fun _ =>
      (adds_emitList (l.policy pass exit)).bind fun _ => adds_place exit
  have pushes := l.countP_pushes required pass optional exit
  refine whole.of_eq ?_
  ext1
  · simp [Ledger.code, Ledger.pushing]
    omega
  all_goals simp [Ledger.code, Ledger.pushing]

end Loop

/-- A loop adds its registers as well. -/
theorem adds_emitLoop {e : Emitter Unit} {T : Ledger} (h : e.Adds T) (amount : Amount)
    (greed : Greed) (mayBeEmpty : Bool) : (emitLoop amount greed mayBeEmpty e).Adds
      (⟨greed.checkpoints, amount.counterCount, (amount.high?.isNone && mayBeEmpty).toNat, []⟩ ++
        T) := by
  rw [emitLoop_eq]
  have loop (required pass optional exit : Label) (registers : LoopRegisters) :
      (Loop.emit ⟨amount, greed, registers⟩ e required pass optional exit).Adds
        (Ledger.pushing greed.checkpoints ++ T) := Loop.adds_emit h required pass optional exit
  have whole := adds_newLabel.bind fun required => adds_newLabel.bind fun pass =>
    adds_newLabel.bind fun optional => adds_newLabel.bind fun exit =>
    (adds_allocate amount mayBeEmpty).bind fun registers =>
    loop required pass optional exit registers
  refine whole.of_eq ?_
  ext1 <;> simp [Ledger.pushing, amount.length_initials, LoopRegisters.remembers]

/-! ## Groups, atoms and branches -/

/-- A group adds its checkpoints to what its body adds. -/
theorem GroupKind.adds_emitGroup (kind : GroupKind) {e : Emitter Unit} {T : Ledger} (h : e.Adds T) :
    (Pattern.emitGroup kind e).Adds (Ledger.pushing kind.checkpoints ++ T) := by
  have fence : (emit .fence).Adds (.pushing 1) := adds_emit _
  have cut (rewind : Bool) : (emit (.cut rewind)).Adds .nothing := adds_emit _
  -- a fence is pushed, and a cut takes it away
  have fenced (rewind : Bool) : (do
      emit .fence
      e
      emit (.cut rewind)).Adds (Ledger.pushing 1 ++ T) :=
    (fence.bind fun _ => h.bind fun _ => cut rewind).of_eq (by rw [Ledger.append_nothing])
  cases kind with
  | capture | named _ | nonCapture | branchReset | options _ _ =>
    exact h.of_eq T.nothing_append.symm
  | atomic => exact fenced false
  | lookahead => exact fenced true
  | negativeLookahead =>
    have save (pass : Label) : (emit (.save pass)).Adds (.pushing 1) := adds_emit _
    have clear : (emit .clear).Adds .nothing := adds_emit _
    have fail : (emit .fail).Adds .nothing := adds_emit _
    have whole := adds_newLabel.bind fun pass => (save pass).bind fun _ => fence.bind fun _ =>
      h.bind fun _ => (cut false).bind fun _ => clear.bind fun _ => fail.bind fun _ =>
      adds_place pass
    refine whole.of_eq ?_
    simp only [Ledger.nothing_append, Ledger.append_nothing, ← Ledger.append_assoc]
    rfl
  | nonAtomicLookahead | lookbehind | negativeLookbehind | nonAtomicLookbehind | scriptRun
  | atomicScriptRun => exact adds_refuse _ _

namespace Pattern

/-- An atom pushes nothing and needs no register. -/
theorem adds_emitAtom (level : MatchLevel) (a : Atom) : (emitAtom level a).Adds .nothing := by
  cases a with
  | any =>
    cases level with
    | grapheme => exact Emitter.adds_emit _
    | scalar => exact Emitter.adds_emit _
  | char _ | scalar _ | cls _ => exact Emitter.adds_emit _
  | property _ _ | anchor _ | backreference _ => exact adds_refuse _ _

/-! ## Patterns -/

mutual

/-- The ledger of the code of a pattern is that of its nodes. -/
theorem adds_emit (level : MatchLevel) :
    ∀ t : Pattern, (emit level (t.relevel level)).Adds (ledger t.counted)
  | alternation [] => adds_pure ()
  | alternation (t :: ts) => by
    have whole := adds_newLabel.bind fun done =>
      (adds_emitBranches level done (t :: ts)).bind fun _ => adds_place done
    refine whole.of_eq ?_
    rw [Ledger.nothing_append, Ledger.append_nothing]
    exact (ledger_cons (alternation (t :: ts)) _).symm
  | concatenation items =>
    (adds_emitAll level items).of_eq
      ((Ledger.nothing_append _).symm.trans (ledger_cons (concatenation items) _).symm)
  | group kind body =>
    (kind.adds_emitGroup (adds_emit level body)).of_eq (ledger_cons (group kind body) _).symm
  | transformed transform kind body =>
    (adds_emit level body).of_eq
      ((Ledger.nothing_append _).symm.trans (ledger_cons (transformed transform kind body) _).symm)
  | repetition amount greed body => by
    -- the emitter leaves out the loops that are not counted
    rw [relevel, emit, counted_repetition]
    split
    · exact adds_pure ()
    · rw [mayBeEmpty_relevel, ledger_cons]
      exact adds_emitLoop (adds_emit level body) amount greed body.mayBeEmpty
  | quote text => adds_emitString text level
  | trivia _ | empty => adds_pure ()
  | atom a => by
    cases a with
    | cls _ => exact Emitter.adds_emit _
    | _ => exact adds_emitAtom level _
  | leveled _ _ => Emitter.adds_emit _
  | custom inverted _ => adds_refuse _ _

theorem adds_emitAll (level : MatchLevel) :
    ∀ ts : List Pattern, (emitAll level (relevelAll level ts)).Adds (ledger (countedAll ts))
  | [] => adds_pure ()
  | t :: ts => by
    rw [countedAll_cons, ledger_append]
    exact (adds_emit level t).bind fun _ => adds_emitAll level ts

/-- Each branch but the last one pushes a checkpoint, from which the next one is resumed. -/
theorem adds_emitBranches (level : MatchLevel) (done : Label) :
    ∀ ts : List Pattern, (emitBranches level done (relevelAll level ts)).Adds
      (Ledger.pushing (ts.length - 1) ++ ledger (countedAll ts))
  | [] => adds_pure ()
  | [t] => (adds_emit level t).of_eq <| by
    rw [countedAll_cons, ledger_append]
    exact ((Ledger.nothing_append _).trans (Ledger.append_nothing _)).symm
  | t :: t' :: ts => by
    have save (next : Label) : (Emitter.emit (.save next)).Adds (.pushing 1) :=
      Emitter.adds_emit _
    have branch : (Emitter.emit (.branch done)).Adds .nothing := Emitter.adds_emit _
    have whole := adds_newLabel.bind fun next => (save next).bind fun _ =>
      (adds_emit level t).bind fun _ => branch.bind fun _ => (adds_place next).bind fun _ =>
      adds_emitBranches level done (t' :: ts)
    refine whole.of_eq ?_
    rw [countedAll_cons t, ledger_append]
    ext1 <;> simp [Ledger.pushing]
    omega

end

/-! ## Programs -/

/-- A program accepts at its end and nowhere else. -/
theorem Compiled.exists_eq_append_accept {level : MatchLevel} {t : Pattern} {p : Program}
    {stop : Cursor} (h : t.Compiled level p stop) :
    ∃ front, p.code.toList = front ++ [.accept] ∧ .accept ∉ front := by
  have size : p.code.toList.length = stop.ip + 1 := Array.length_toList.trans h.size
  have last : p.code.toList[stop.ip]? = some .accept := by
    rw [Array.getElem?_toList, h.accept]
  refine ⟨p.code.toList.take stop.ip, ?_, ?_⟩
  · calc p.code.toList
      _ = p.code.toList.take (stop.ip + 1) := (List.take_of_length_le (Nat.le_of_eq size)).symm
      _ = p.code.toList.take stop.ip ++ [.accept] := by
        rw [List.take_add_one, last, Option.toList_some]
  · intro mem
    obtain ⟨ip, inside, found⟩ := List.mem_take_iff_getElem.1 mem
    obtain ⟨i, here, inner⟩ := fragment_inner level t p .start stop h.code ip (Nat.zero_le ip)
      (by omega)
    -- what stands in front of the end is code of the pattern, which does not accept
    rw [← Array.getElem?_toList, List.getElem?_eq_getElem (by omega), found,
      Option.some.injEq] at here
    rw [← here] at inner
    cases inner

/-- The size of a program. It accepts at its end and nowhere else, and the checkpoints it can push,
its counters, its marks and its texts are those of the nodes of the pattern that are neither loops
that leave nothing to repeat nor in such loops. -/
theorem compile_accounts {level : MatchLevel} {t : Pattern} {p : Program}
    (compiled : t.compile level = .ok p) :
    (∃ front, p.code.toList = front ++ [.accept] ∧ .accept ∉ front) ∧
      p.counters.size = (t.counted.map counterCount).sum ∧
      p.marks = t.counted.countP remembers ∧
      p.strings.texts.toList = (t.counted.filterMap quoted?).eraseDups ∧
      p.pushCount = (t.counted.map checkpoints).sum := by
  obtain ⟨_, code⟩ := compiled_of_compile compiled
  unfold compile at compiled
  split at compiled
  · rename_i tree found
    obtain rfl := eq_relevel_of_withLevel level t tree found
    have whole := (adds_emit level t).bind fun _ => Emitter.adds_emit .accept
    have has : p.Has (ledger t.counted) := (whole.of_eq (Ledger.append_nothing _)).program compiled
    exact ⟨code.exists_eq_append_accept, has.counters, has.marks, has.texts, has.pushes⟩
  · cases compiled

/-- Two branches that quote the same text and a possessive loop around an atomic group; in the last
of the other loops, nothing is left to repeat. -/
theorem compile_accounts_of_nested_loops :
    let t : Pattern := .alternation [.quote ['a', 'b'],
      .repetition (.between 2 5) .possessive (.group .atomic (.quote ['c'])),
      .repetition .zeroOrMore .reluctant (.group .negativeLookahead (.concatenation
        [.quote ['a', 'b'], .repetition (.between 5 2) .eager (.quote ['d'])]))]
    ∃ p, t.compile .grapheme = .ok p ∧ p.counters.size = 2 ∧ p.marks = 1 ∧
      p.strings.texts.toList = [['a', 'b'], ['c']] ∧ p.pushCount = 9 := by
  intro t
  obtain ⟨p, compiled⟩ := (compile_ok_iff .grapheme t).2 (by decide)
  obtain ⟨_, counters, marks, texts, pushes⟩ := compile_accounts compiled
  exact ⟨p, compiled, counters, marks, texts, pushes⟩

/-- A loop that leaves nothing to repeat is alive itself, but its bounds and its greed leave nothing
in the program. -/
theorem compile_void_loop :
    let t : Pattern := .repetition (.between 5 2) .eager (.atom (.char ['a']))
    ∃ p, t.compile .grapheme = .ok p ∧
      p.counters.size ≠ (t.liveNodes.map counterCount).sum ∧
      p.pushCount ≠ (t.liveNodes.map checkpoints).sum :=
  ⟨⟨#[.accept], .empty, #[], 0⟩, by decide +kernel, by decide, by decide⟩

end Pattern

end GraphemeRegex
