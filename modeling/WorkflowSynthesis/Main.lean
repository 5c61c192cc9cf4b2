import WorkflowSynthesis.CommandLine.Program

/-! The command line: dialogues are conducted with the terminal and the file system. -/

namespace WorkflowSynthesis

def reasonOf (error : IO.Error) : String :=
  match error with
  | .noFileOrDirectory _ code details | .permissionDenied (some _) code details
  | .inappropriateType (some _) code details => details ++ " (os error " ++ toString code ++ ")"
  | error => toString error

def attempt {α : Type} (action : IO α) : IO (Except String α) := do
  match ← action.toBaseIO with
  | .ok result => return .ok result
  | .error error => return .error (reasonOf error)

def Dialogue.conduct {α : Type} : Dialogue α → IO UInt32
  | .done _ => return 0
  | .exit code => return UInt32.ofNat code
  | .print text next => do
    (← IO.getStdout).putStr text
    next.conduct
  | .remark text next => do
    (← IO.getStderr).putStr text
    (← IO.getStderr).flush
    next.conduct
  | .ask next => do (next (← (← IO.getStdin).getLine)).conduct
  | .load path next => do (next (← attempt (IO.FS.readFile path))).conduct
  | .save path content next => do (next (← attempt (IO.FS.writeFile path content))).conduct

end WorkflowSynthesis

def main (arguments : List String) : IO UInt32 := do
  let bytes ← IO.getRandomBytes 8
  let seed := bytes.foldl (fun seed byte => seed * 256 + byte.toUInt64) 0
  (WorkflowSynthesis.Program.run (.uuids seed) arguments).conduct
