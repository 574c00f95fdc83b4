import ArithQuiz.Command.Args
import ArithQuiz.Config.Load
import ArithQuiz.Quiz.Generate

/-!
# Running the program

A run reads the command line, loads and checks the configuration, makes the
quizzes and writes their report. Its outcome is an exit status with the texts
for standard output and standard error:

* help and version: status 0, the text on standard output;
* an unreadable command line: status 2, the report on standard error;
* a configuration that cannot be loaded or is invalid: status 1, one line
  `Error: ` followed by the context and each cause, joined by `: `;
* otherwise status 0 and the report on standard output.

Without a seed the quizzes come from a fixed stream: the choice of stream is
free there.

Standard error starts with the journal of the run, kept up to the log level
of the command line: loading, checking and generating tell as they go, and
the run itself tells the chosen level, the seed, the number of quizzes made
and, at `warn`, a shortfall. A pure run reads no clock, so the record of the
quizzes made does not say how long it took.
-/

set_option autoImplicit false

namespace ArithQuiz.Command

/-- What a run leaves behind. -/
structure Outcome where
  /-- The exit status. -/
  status : Nat
  /-- The text on standard output. -/
  stdout : String
  /-- The text on standard error. -/
  stderr : String
deriving Inhabited

/-- The outcome of a command line that was not read. -/
def ArgError.outcome (e : ArgError) : Outcome :=
  if e.isDisplay then ⟨0, e.message, ""⟩ else ⟨2, "", e.message⟩

/-- The line that reports a configuration error under a context. -/
def errorLine (context : String) (e : ConfigError) : String :=
  "Error: " ++ ": ".intercalate (context :: e.message :: e.causes) ++ "\n"

/-- The seed used when none is given. -/
def defaultSeed : UInt64 := 0

/-- The steps of a run for a command line read, given the text of its
configuration file or why it could not be read; the journal hears them. -/
def Invocation.steps (inv : Invocation) (text : Except FileFault String) : StateM Journal Outcome := do
  match ← Config.loadNoting inv.config text with
  | .error e => pure ⟨1, "", errorLine ("Cannot load config '" ++ inv.config ++ "'") e⟩
  | .ok c =>
    match ← c.check.run with
    | .error e => pure ⟨1, "", errorLine "Invalid config" e⟩
    | .ok () =>
      note .info fun _ => "Log level set to " ++ inv.logLevel.title
      if let some s := inv.seed then
        note .info fun _ => "Generating with seed " ++ toString s
      let qs ← c.generateNoting (inv.seed.getD defaultSeed)
      note .info fun _ => "Generated " ++ toString qs.length ++ " quizzes"
      if qs.length < c.quiz.amount then
        note .warn fun _ =>
          "Only " ++ toString qs.length ++ " of " ++ toString c.quiz.amount ++
            " requested quizzes could be generated"
      pure ⟨0, inv.format.render qs, ""⟩

/-- Runs the program for a command line read, given the text of its
configuration file or why it could not be read. The journal, kept up to the
chosen level, is written to standard error before the run's own text. -/
def Invocation.execute (inv : Invocation) (text : Except FileFault String) : Outcome :=
  let (o, j) := (inv.steps text).run (Journal.upTo inv.logLevel)
  { o with stderr := j.render ++ o.stderr }

/-- Runs the program on a command line over a tree of files. -/
def run (fs : Files) (args : List String) : Outcome :=
  match parseInvocation args with
  | .error e => e.outcome
  | .ok inv => inv.execute (fs.read inv.config)

end ArithQuiz.Command
