import ArithQuiz.Config.Decode
import ArithQuiz.Config.Validate
import ArithQuiz.Json.TextSource

/-!
# Loading a configuration from a file

A configuration file is read from a file system (`Files.readJoined`), then decoded
from its JSON text. Reading fails with the system's fault; decoding fails
with the reader's error and its position. `Config.loadNoting` tells the path
before reading (at `info`) and the sizes of what was loaded (at `debug`).
-/

set_option autoImplicit false

namespace ArithQuiz

/-- The configuration in a JSON text. -/
def Config.ofText (text : String) : Except ConfigError Config :=
  match Json.decodeText Config.decoder text with
  | .ok c => .ok c
  | .error e => .error (.malformed e)

/-- Decodes the configuration file at a path, given its text or why it could
not be read. -/
def Config.ofFile (path : String) (text : Except FileFault String) : Except ConfigError Config :=
  match text with
  | .error f => .error (.unreadable path f)
  | .ok t => Config.ofText t

/-- Reads and decodes the configuration file at a path joined onto the
working directory. -/
def loadConfig (fs : Files) (path : String) : Except ConfigError Config :=
  Config.ofFile path (fs.readJoined path)

/-- Decodes as `Config.ofFile` does, telling the path first and then, for a
configuration obtained, how many variables, equations and quizzes it has. -/
def Config.loadNoting (path : String) (text : Except FileFault String) :
    StateM Journal (Except ConfigError Config) := do
  note .info fun _ => "Loading config from '" ++ path ++ "'"
  match Config.ofFile path text with
  | .error e => pure (.error e)
  | .ok c =>
    note .debug fun _ =>
      "Loaded config: " ++ toString c.variableSpecs.length ++ " variables, " ++
        toString c.equationSpecs.length ++ " equations, " ++ toString c.quiz.amount ++ " quizzes"
    pure (.ok c)

/-- Telling changes no answer. -/
theorem loadNoting_run_fst (path : String) (text : Except FileFault String) (j : Journal) :
    ((Config.loadNoting path text).run j).1 = Config.ofFile path text := by
  unfold Config.loadNoting
  cases Config.ofFile path text <;> rfl

end ArithQuiz
