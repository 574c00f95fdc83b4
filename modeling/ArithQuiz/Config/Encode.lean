import ArithQuiz.Config.Basic
import ArithQuiz.Json.Write
import ArithQuiz.Decimal.Text

/-!
# Writing configurations as JSON

`Config.toJson` writes every field, defaults included, in declaration order
and with kebab-case keys: the normalized form of a configuration. Ranges are
arrays of two bounds, decimal bounds are strings of their canonical text, and
the chance and multiplier are doubles.
-/

set_option autoImplicit false

namespace ArithQuiz

open Json

/-- A JSON integer. -/
def intJson (n : Int) : Value :=
  if n < 0 then .number (.negInt n) else .number (.nat n.toNat)

/-- A JSON array of strings. -/
def stringsJson (xs : List String) : Value := .array (xs.map .string)

/-- A range of integers as a two-item array. -/
def Interval.intJson (r : Interval Int) : Value := .array [ArithQuiz.intJson r.min, ArithQuiz.intJson r.max]

/-- The symbol of an operator as a JSON string. -/
def Operator.toJson (op : Operator) : Value := .string op.symbol.toString

/-- The JSON form of a quiz section. -/
def QuizSection.toJson (q : QuizSection) : Value :=
  .object [("amount", .number (.nat q.amount)),
    ("equation-order", .array (q.equationOrder.map fun n => .number (.nat n)))]

/-- The JSON form of a variable. -/
def VariableSpec.toJson (v : VariableSpec) : Value :=
  .object [("identifier", .string v.identifier), ("range", v.range.intJson)]

/-- The JSON form of a mutation. -/
def Mutation.toJson (m : Mutation) : Value :=
  .object [("enabled", .bool m.enabled), ("chance", .number (.float m.chance)),
    ("multiplier", .number (.float m.multiplier.toBinary64)), ("amplifier", m.amplifier.intJson),
    ("affected-variables", stringsJson m.affected)]

/-- The JSON form of the rules. -/
def Rules.toJson (r : Rules) : Value :=
  .object [("self-division", .bool r.selfDivision), ("self-subtraction", .bool r.selfSubtraction),
    ("negative-results", .bool r.negativeResults), ("decimal-results", .bool r.decimalResults),
    ("decimal-solution", .bool r.decimalSolution)]

/-- The JSON form of the allowed solutions. -/
def SolutionSpec.toJson (s : SolutionSpec) : Value :=
  let range := match s.range with
    | some r => .array [.string r.min.toText, .string r.max.toText]
    | none => .null
  .object [("range", range), ("hide", .bool s.hide)]

/-- The name of a substitution mode. -/
def Substitution.name : Substitution → String
  | .literal => "literal"
  | .token => "token"

/-- The JSON form of an equation. -/
def EquationSpec.toJson (e : EquationSpec) : Value :=
  .object [("operands", .array (e.operators.map Operator.toJson)),
    ("variables", .object [("amount", .number (.nat e.selection.amount)),
      ("combos", .array (e.selection.combos.map stringsJson))]),
    ("mutation", e.mutation.toJson), ("validate", e.rules.toJson),
    ("solution", e.solution.toJson), ("substitution", .string e.substitution.name)]

/-- The JSON form of a configuration. -/
def Config.toJson (c : Config) : Value :=
  .object [("quiz", c.quiz.toJson), ("variables", .array (c.variableSpecs.map VariableSpec.toJson)),
    ("equations", .array (c.equationSpecs.map EquationSpec.toJson))]

/-- The normalized text of a configuration: its JSON form, compact. -/
def Config.normalized (c : Config) : String := c.toJson.compact

end ArithQuiz
