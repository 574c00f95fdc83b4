import ArithQuiz.Quiz.Basic
import ArithQuiz.Json.Write

/-!
# Reports

Quizzes are written as text or as JSON.

* Text: quizzes separated by an empty line; each starts with `Quiz i`
  (from 1), then the variables as `id = value` joined by `, `, then for each
  equation its identifier form and its value form, every line ending in a
  line feed.
* JSON: an indented array of quizzes, each with its `variables`
  (`identifier`, `value`) and `equations` (`identifiers`, `values`), then a
  line feed.
-/

set_option autoImplicit false

namespace ArithQuiz

open Json

/-- The lines of one quiz, numbered `i`. -/
def Quiz.textLines (q : Quiz) (i : Nat) : List String :=
  ("Quiz " ++ toString i) ::
    ", ".intercalate (q.drawnVariables.map fun v => v.identifier ++ " = " ++ v.value.toText) ::
    q.equations.flatMap fun e => [e.identifiers, e.values]

/-- The text report. -/
def textReport (qs : List Quiz) : String :=
  "\n".intercalate ((qs.zipIdx 1).map fun (q, i) => String.join ((q.textLines i).map (· ++ "\n")))

/-- The JSON form of a quiz. -/
def Quiz.toJson (q : Quiz) : Value :=
  .object [("variables", .array (q.drawnVariables.map fun v =>
      .object [("identifier", .string v.identifier), ("value", .string v.value.toText)])),
    ("equations", .array (q.equations.map fun e =>
      .object [("identifiers", .string e.identifiers), ("values", .string e.values)]))]

/-- The JSON report. -/
def jsonReport (qs : List Quiz) : String := (Value.array (qs.map Quiz.toJson)).pretty 0 ++ "\n"

/-- The two report formats. -/
inductive ReportFormat
  | text
  | json
deriving DecidableEq, Inhabited

/-- The report of some quizzes in a format. -/
def ReportFormat.render : ReportFormat → List Quiz → String
  | .text, qs => textReport qs
  | .json, qs => jsonReport qs

end ArithQuiz
