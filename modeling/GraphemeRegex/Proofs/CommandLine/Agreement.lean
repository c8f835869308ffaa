import GraphemeRegex.CommandLine.Answer
import GraphemeRegex.Proofs.Machine.Observation
import GraphemeRegex.Proofs.Text.Quoting

/-! # Agreement — what two commands say of the same request

The search and its trace try the same positions in the same order and stop at the same one, so that
they end alike. What the search writes for a match is what the trace writes last.

* `CommandLine.Answer.Agrees`: two commands end alike.
* `CommandLine.Request.agrees_traceFrom`: the trace of a search ends as the search does.
* `CommandLine.Request.exec_agrees_with_trace`: the commands agree on every request.
-/

namespace GraphemeRegex.CommandLine

/-! ## The line for a match -/

namespace Request

variable (r : Request)

/-- The line for a match, without the line break at its end. -/
def matchText (start stop : Position) : String :=
  toString start.offset ++ ".." ++ toString stop.offset ++ " " ++
    r.palette.inGreen (start.textUpTo stop).quoted

/-- The line for a match ends with a line break. -/
theorem toList_matchLine (start stop : Position) :
    (r.matchLine start stop).toList = (r.matchText start stop).toList ++ ['\n'] := by
  simp [matchLine, matchText]

/-- The line for a match has no line break inside, since the match is quoted. -/
theorem unbroken_matchText (start stop : Position) : '\n' ∉ (r.matchText start stop).toList := by
  have unbroken {text : Text} (legible : text.Legible) : '\n' ∉ text := legible.not_mem (by decide)
  -- a colour is an escape sequence or nothing
  have green : '\n' ∉ r.palette.green.toList := by
    unfold palette
    cases r.colored <;> decide
  have reset : '\n' ∉ r.palette.reset.toList := by
    unfold palette
    cases r.colored <;> decide
  have range : '\n' ∉
      (toString start.offset ++ ".." ++ toString stop.offset ++ " ").toList := unbroken (by simp)
  rw [matchText, Palette.inGreen, String.toList_append, List.mem_append, not_or]
  refine ⟨range, ?_⟩
  simp only [String.toList_append, List.mem_append, not_or]
  exact ⟨⟨green, unbroken (Text.legible_quoted _)⟩, reset⟩

end Request

/-! ## Searches and their traces -/

/-- Two commands end alike, and with a match the first writes the last line of the second. -/
structure Answer.Agrees (exec trace : Answer) : Prop where
  exitCode : exec.exitCode = trace.exitCode
  err : exec.err = trace.err
  out : exec.exitCode = 0 → ∃ line : Text, exec.out.toList = line ++ ['\n'] ∧
    (Text.lines trace.out.toList).getLast? = some line

/-- Without a match, nothing is asked of what is written. -/
theorem Answer.Agrees.of_ne_zero {exec trace : Answer} (exitCode : exec.exitCode = trace.exitCode)
    (err : exec.err = trace.err) (fails : exec.exitCode ≠ 0) : exec.Agrees trace :=
  ⟨exitCode, err, fun zero => absurd zero fails⟩

namespace Request

variable (r : Request)

/-- What is answered to what a search has found. -/
def answerFound : Except RunError (Option (Position × Position)) → Answer
  | .ok (some (start, stop)) => .success (r.matchLine start stop)
  | .ok none => .noMatch ""
  | .error e => .failure 2 "" e.message

/-- What the trace writes before does not matter. -/
theorem agrees_success (start stop : Position) (before : String) :
    (Answer.success (r.matchLine start stop)).Agrees
      (.success (before ++ "\n" ++ r.matchLine start stop)) where
  exitCode := rfl
  err := rfl
  out _ := by
    refine ⟨(r.matchText start stop).toList, r.toList_matchLine start stop, ?_⟩
    have written : (before ++ "\n" ++ r.matchLine start stop).toList =
        before.toList ++ '\n' :: ((r.matchText start stop).toList ++ ['\n']) := by
      rw [String.toList_append, String.toList_append, toList_matchLine, List.append_assoc]
      rfl
    show (Text.lines (before ++ "\n" ++ r.matchLine start stop).toList).getLast? = _
    rw [written]
    exact Text.getLast?_lines (r.unbroken_matchText start stop) before.toList

/-- The trace of a search ends as the search does, whatever was written before. -/
theorem agrees_traceFrom {r s : Request} (colored : r.colored = s.colored) (regex : Regex)
    (subject : Text) (starts : List Position) (out : String) :
    (r.answerFound (regex.findFrom subject starts)).Agrees
      (s.traceFrom regex subject out starts) := by
  induction starts generalizing out with
  | nil => exact .of_ne_zero rfl rfl Nat.one_ne_zero
  | cons start later ih =>
    -- the trace of a position tells the outcome of the run from there
    have same := ((regex.machine subject false).trace_spec regex.limits start).1
    rw [Regex.findFrom, traceFrom, Regex.runAt, ← same]
    rcases (regex.machine subject false).trace regex.limits start with ⟨events, outcome⟩
    cases outcome with
    | error e => exact .of_ne_zero rfl rfl (show 2 ≠ 0 by decide)
    | ok found =>
      cases found with
      | none => exact ih _
      | some stop =>
        -- the colours are those of the request, which are the same
        have line : r.matchLine start stop = s.matchLine start stop := by
          rw [matchLine, matchLine, palette, palette, colored]
        show (Answer.success (r.matchLine start stop)).Agrees _
        rw [line]
        exact s.agrees_success start stop _

/-- The answer to a pattern that cannot be read or compiled is a failure. -/
theorem exitCode_of_regex_eq_error {r : Request} {answer : Answer} (h : r.regex = .error answer) :
    answer.exitCode = 1 := by
  unfold regex at h
  split at h
  · cases h
  · cases h
    rfl
  · cases h
    rfl

/-! ## The commands -/

/-- The commands agree on a request, also if the same subject is given in different ways. -/
theorem exec_agrees_with_trace (r : Request) (source : SubjectSource) (files files' : FileReader)
    (same : { r with subject := source }.loadSubject files' = r.loadSubject files) :
    ({ r with command := .exec, whole := false }.answer files).Agrees
      ({ r with command := .trace, subject := source }.answer files') := by
  let exec : Request := { r with command := .exec, whole := false }
  let trace : Request := { r with command := .trace, subject := source }
  show (exec.answerExec files).Agrees (trace.answerTrace files')
  -- both load the same subject and build the same regex
  have load : exec.loadSubject files = trace.loadSubject files' := same.symm
  have compile : exec.regex = trace.regex := rfl
  rw [answerExec, answerTrace, ← load, ← compile]
  cases exec.loadSubject files with
  | error message => exact .of_ne_zero rfl rfl Nat.one_ne_zero
  | ok subject =>
    cases built : exec.regex with
    | error answer =>
      have fails := exitCode_of_regex_eq_error built
      exact .of_ne_zero rfl rfl (by rw [fails]; exact Nat.one_ne_zero)
    | ok regex => exact agrees_traceFrom (r := exec) (s := trace) rfl regex subject _ ""

/-- The subject as an argument, and the same subject in a file. -/
theorem exec_agrees_with_trace_of_file :
    let r : Request := ⟨.exec, ['a'], .inline ['b', 'a'], .traditional, .scalar, true, 100, false,
      .verbose⟩
    let files : FileReader := fun _ => .ok ['b', 'a']
    { r with subject := .file "subject" }.loadSubject files = r.loadSubject files ∧
      ({ r with command := .exec, whole := false }.answer files).exitCode = 0 ∧
      ({ r with command := .exec, whole := false }.answer files).Agrees
        ({ r with command := .trace, subject := .file "subject" }.answer files) := by
  intro r files
  exact ⟨rfl, by decide +kernel, exec_agrees_with_trace r (.file "subject") files files rfl⟩

end Request

end GraphemeRegex.CommandLine
