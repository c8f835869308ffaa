import GraphemeRegex.CommandLine.Answer

/-! # The command line

Reads the file that a request names, writes the answer and ends with its exit code.
-/

open GraphemeRegex CommandLine

/-- The content of a file, or of standard input for a hyphen. -/
def readSubject (path : String) : IO (Except String Text) := do
  try
    let bytes ←
      if path == "-" then (← IO.getStdin).readBinToEnd
      else IO.FS.readBinFile path
    return decodeText bytes
  catch
    | .noFileOrDirectory .. => return .error "No such file or directory (os error 2)"
    | e => return .error (toString e)

/-- Reads what a request needs before it is answered. -/
def readerFor (r : Request) : IO FileReader := do
  match r.neededFile? with
  | some path =>
    let content ← readSubject path
    return fun _ => content
  | none => return fun _ => .ok []

def main (words : List String) : IO UInt32 := do
  match Request.ofWords? words with
  | none =>
    IO.eprintln "usage: (ast | dump | exec | trace) PATTERN [SUBJECT] [OPTIONS]"
    return 2
  | some r =>
    let answer := r.answer (← readerFor r)
    IO.print answer.out
    IO.eprint answer.err
    return answer.exitCode.toUInt32
