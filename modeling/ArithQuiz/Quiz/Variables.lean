import ArithQuiz.Quiz.Basic

/-!
# Drawing variable values

Each variable, in declaration order, gets up to `attemptLimit` draws of an
integer from its range; a draw equal to the value of a variable already
accepted is refused, and an empty range fails without drawing. A variable
whose attempts all fail is left out, with a warning in the journal.
-/

set_option autoImplicit false

namespace ArithQuiz

open ArithQuiz.Random

variable {σ : Type} [DrawSource σ] [Journaled σ]

/-- One attempt at a value for `spec`, given the variables accepted so far. -/
def VariableSpec.draw (spec : VariableSpec) (taken : List Variable) (g : σ) :
    Except AttemptError Decimal × σ :=
  if spec.range.isEmpty then (.error (.emptyRange spec.identifier spec.range), g)
  else
    let (n, g) := DrawSource.uniformInt spec.range.min spec.range.max g
    let v := Decimal.ofInt n
    if taken.any (fun t => t.value == v) then (.error (.valueTaken spec.identifier v), g)
    else (.ok v, g)

/-- Draws values for the variables after those accepted (`taken`, in order). -/
def drawVariablesFrom (taken : List Variable) : List VariableSpec → σ → List Variable × σ
  | [], g => (taken, g)
  | spec :: specs, g =>
    match retry "Variable" (spec.draw taken) attemptLimit g with
    | (some v, g) => drawVariablesFrom (taken ++ [⟨spec.identifier, v⟩]) specs g
    | (none, g) =>
      drawVariablesFrom taken specs (Journaled.note g .warn fun _ =>
        "Failed to generate variable '" ++ spec.identifier ++ "' after " ++ toString attemptLimit ++
          " attempts")

/-- Draws values for all variables of a configuration. -/
def drawVariables (specs : List VariableSpec) (g : σ) : List Variable × σ :=
  drawVariablesFrom [] specs g

end ArithQuiz
