import GraphemeRegex.Lowering.Emptiness
import GraphemeRegex.Lowering.Repetition

/-! # Compiling — from a pattern to a program

The code of a sequence is the code of its items one after the other. Groups that only capture, name
or change options leave no trace in the code; atomic groups and lookaheads fence their body.

* `Pattern.emit`: the code of a pattern.
* `Pattern.lower`: its program, with the given level for what was not leveled.
* `Pattern.compile`: leveling, then lowering.
-/

namespace GraphemeRegex

open Emitter

namespace Pattern

/-- The code of an atom. -/
def emitAtom (level : MatchLevel) (a : Atom) : Emitter Unit :=
  match a with
  | .any =>
    match level with
    | .grapheme => Emitter.emit (.advance 1)
    | .scalar => Emitter.emit (.consume .anyScalar level)
  | .char text => Emitter.emit (.matchText text level)
  | .scalar c => Emitter.emit (.matchText [c] level)
  | .cls cls => Emitter.emit (.consume cls level)
  | .property _ _ | .anchor _ | .backreference _ => refuse (tag (atom a))

/-- The code of a group with a body. -/
def emitGroup (kind : GroupKind) (body : Emitter Unit) : Emitter Unit :=
  match kind with
  | .capture | .named _ | .nonCapture | .branchReset | .options _ _ => body
  | .atomic => do
    Emitter.emit .fence
    body
    Emitter.emit (.cut false)
  | .lookahead => do
    Emitter.emit .fence
    body
    Emitter.emit (.cut true)
  | .negativeLookahead => do
    -- if the body fails, the saved checkpoint goes on behind the code
    let pass ← newLabel
    Emitter.emit (.save pass)
    Emitter.emit .fence
    body
    Emitter.emit (.cut false)
    -- if it matches, that checkpoint is dropped in front of the failure
    Emitter.emit .clear
    Emitter.emit .fail
    place pass
  | .nonAtomicLookahead | .lookbehind | .negativeLookbehind | .nonAtomicLookbehind | .scriptRun
  | .atomicScriptRun => refuse ("group_" ++ kind.tag)

mutual

/-- The code of a pattern. -/
def emit (level : MatchLevel) : Pattern → Emitter Unit
  | alternation branches =>
    if branches.isEmpty then pure ()
    else do
      let done ← newLabel
      emitBranches level done branches
      place done
  | concatenation items => emitAll level items
  | group kind body => emitGroup kind (emit level body)
  | transformed _ _ body => emit level body
  | repetition amount greed body =>
    if amount.isDegenerate then pure ()
    else emitLoop amount greed body.mayBeEmpty (emit level body)
  | quote text => emitString text level
  | trivia _ => pure ()
  | empty => pure ()
  | atom a => emitAtom level a
  | leveled cls own => Emitter.emit (.consume cls (own.getD level))
  | custom inverted _ => refuse (customTag inverted)

/-- The code of patterns one after the other. -/
def emitAll (level : MatchLevel) : List Pattern → Emitter Unit
  | [] => pure ()
  | p :: ps => do
    emit level p
    emitAll level ps

/-- The code of branches that are tried in order; all but the last jump to `done`. -/
def emitBranches (level : MatchLevel) (done : Label) : List Pattern → Emitter Unit
  | [] => pure ()
  | [p] => emit level p
  | p :: q :: qs => do
    let next ← newLabel
    Emitter.emit (.save next)
    emit level p
    Emitter.emit (.branch done)
    place next
    emitBranches level done (q :: qs)

end

/-- The program of a pattern; the level is for what was not leveled. -/
def lower (p : Pattern) (level : MatchLevel) : Except CompileError Program :=
  Emitter.program do
    p.emit level
    Emitter.emit .accept

/-- The program of a pattern at a level. -/
def compile (p : Pattern) (level : MatchLevel) : Except CompileError Program :=
  match p.withLevel level with
  | .ok tree => tree.lower level
  | .error e => .error (.unsupported e)

end Pattern

end GraphemeRegex
