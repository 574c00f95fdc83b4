import ArithQuiz.Command.Run

/-!
# The program

Reads the command line and, if it names one, the configuration file, then
prints what the run leaves and exits with its status.
-/

open ArithQuiz ArithQuiz.Command

/-- The file fault behind an error of the system. -/
def faultOf (e : IO.Error) : FileFault :=
  match e with
  | .noFileOrDirectory _ _ _ => .notFound
  | .inappropriateType _ code _ => if code = 20 then .notADirectory else .isDirectory
  | .otherError 21 _ => .isDirectory
  | .invalidArgument _ 36 _ => .nameTooLong
  | _ => .notFound

/-- The text of a file, or why it could not be read. -/
def readText (path : String) : IO (Except FileFault String) := do
  if path.contains (Char.ofNat 0) then return .error .nulInName
  try
    let bytes ← IO.FS.readBinFile path
    match String.fromUTF8? bytes with
    | some text => return .ok text
    | none => return .error .notText
  catch e =>
    return .error (faultOf e)

/-- Runs the program. -/
def main (args : List String) : IO UInt32 := do
  let outcome ← match parseInvocation args with
    | .error e => pure e.outcome
    | .ok inv => do
      let text ← readText inv.config
      pure (inv.execute text)
  IO.print outcome.stdout
  IO.eprint outcome.stderr
  return outcome.status.toUInt32
