import ArithQuiz.Quiz.Variables
import ArithQuiz.Quiz.Assemble
import ArithQuiz.Random.Sample

/-!
# Generating quizzes

For each quiz number in turn, up to `attemptLimit` attempts: draw the
variables (none drawn fails the attempt), then for each equation in
declaration order up to `attemptLimit` assembly attempts (an equation whose
attempts all fail is left out); no equation left fails the attempt. A quiz
number whose attempts all fail is left out. One source of draws serves the
whole run; `Config.generate` takes the word stream of a seed.

The journal hears the start and the end of the run (at `info`), each quiz
attempt that succeeds (at `debug`), and each equation or quiz number left out
(at `warn`), besides what the attempts themselves tell.
`Config.generateNoting` runs generation on a journal; `Config.generate` runs
it beside the silent journal.
-/

set_option autoImplicit false

namespace ArithQuiz

open ArithQuiz.Random

section

variable {σ : Type} [DrawSource σ] [Journaled σ]

/-- The equations assembled for drawn variables, failed ones left out; the
first equation has number `n`. -/
def assembleAll (vars : List Variable) : Nat → List EquationSpec → σ → List Equation × σ
  | _, [], g => ([], g)
  | n, spec :: specs, g =>
    let (e?, g) := retry "Equation" (spec.assemble vars) attemptLimit g
    let g := if e?.isSome then g else Journaled.note g .warn fun _ =>
      "Failed to generate equation #" ++ toString n ++ " after " ++ toString attemptLimit ++ " attempts"
    let (rest, g) := assembleAll vars (n + 1) specs g
    match e? with
    | some e => (e :: rest, g)
    | none => (rest, g)

/-- One attempt at a quiz. -/
def Config.quizAttempt (c : Config) (g : σ) : Except AttemptError Quiz × σ :=
  let (vars, g) := drawVariables c.variableSpecs g
  if vars.isEmpty then (.error (.incompleteQuiz 0 0), g)
  else
    let (eqs, g) := assembleAll vars 1 c.equationSpecs g
    if eqs.isEmpty then (.error (.incompleteQuiz vars.length 0), g)
    else
      (.ok ⟨vars, eqs⟩, Journaled.note g .debug fun _ =>
        "Quiz attempt produced " ++ toString vars.length ++ " variables and " ++
          toString eqs.length ++ " equations")

/-- The quizzes for `left` more quiz numbers, the first of them `number`. -/
def Config.quizzesFrom (c : Config) (number : Nat) : (left : Nat) → σ → List Quiz × σ
  | 0, g => ([], g)
  | left + 1, g =>
    let (q?, g) := retry "Quiz" c.quizAttempt attemptLimit g
    let g := if q?.isSome then g else Journaled.note g .warn fun _ =>
      "Failed to generate quiz #" ++ toString number ++ " of " ++ toString c.quiz.amount ++
        " after " ++ toString attemptLimit ++ " attempts"
    let (rest, g) := c.quizzesFrom (number + 1) left g
    match q? with
    | some q => (q :: rest, g)
    | none => (rest, g)

/-- The quizzes of a configuration, the run told from start to end. -/
def Config.quizzes (c : Config) (g : σ) : List Quiz × σ :=
  let g := Journaled.note g .info fun _ =>
    "Generating " ++ toString c.quiz.amount ++ " quizzes with " ++
      toString c.equationSpecs.length ++ " equations each"
  let (qs, g) := c.quizzesFrom 1 c.quiz.amount g
  (qs, Journaled.note g .info fun _ =>
    "Generated " ++ toString qs.length ++ " of " ++ toString c.quiz.amount ++ " quizzes")

end

/-- The quizzes of a configuration from the word stream of a seed, told in a
journal. -/
def Config.generateNoting (c : Config) (seed : UInt64) : StateM Journal (List Quiz) := fun j =>
  let (qs, t) := c.quizzes (⟨Stream.ofSeed seed, j⟩ : Traced Stream)
  (qs, t.journal)

/-- The quizzes of a configuration from the word stream of a seed. -/
def Config.generate (c : Config) (seed : UInt64) : List Quiz :=
  (c.quizzes (⟨Stream.ofSeed seed, .silent⟩ : Traced Stream)).1

end ArithQuiz
