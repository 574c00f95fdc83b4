import ArithQuiz.Expr.Eval
import ArithQuiz.Binary64.Basic

/-!
# Quiz configurations

A configuration says how many quizzes to make, which variables to draw (each
an identifier and a range of integers), and which equations to assemble from
them. An equation names its operators, how many variables it takes and the
combinations they come from, how identifiers may be mutated, the rules and
solution range of its evaluation, and how values replace identifiers.
-/

set_option autoImplicit false

namespace ArithQuiz

/-- How many quizzes to make. -/
structure QuizSection where
  /-- The number of quizzes. -/
  amount : Nat
  /-- An ordering of the equations; kept, not used by generation. -/
  equationOrder : List Nat := []
deriving Inhabited

/-- A variable: its identifier and the integers its value is drawn from. -/
structure VariableSpec where
  /-- The identifier. -/
  identifier : String
  /-- The range of values. -/
  range : Interval Int
deriving Inhabited

/-- How many variables an equation takes, and the combinations of identifiers
they are taken from. -/
structure Selection where
  /-- The number of variables. -/
  amount : Nat
  /-- Combinations of identifiers. -/
  combos : List (List String)
deriving Inhabited

/-- The factor a mutated identifier is multiplied by. -/
inductive Multiplier
  | quarter
  | half
  | one
deriving DecidableEq, Inhabited

namespace Multiplier

/-- The factor as a double. -/
def toBinary64 : Multiplier → Binary64
  | quarter => ⟨false, Nat.pow 2 52, -54⟩
  | half => ⟨false, Nat.pow 2 52, -53⟩
  | one => ⟨false, Nat.pow 2 52, -52⟩

/-- The factor as written into an equation, none for one. -/
def literal? : Multiplier → Option String
  | quarter => some "0.25"
  | half => some "0.5"
  | one => none

end Multiplier

/-- How identifiers of an equation may be replaced by scaled forms. -/
structure Mutation where
  /-- Whether mutation happens at all. -/
  enabled : Bool := false
  /-- The probability that an affected identifier is mutated. -/
  chance : Binary64 := Binary64.zero false
  /-- The factor of a mutated identifier. -/
  multiplier : Multiplier := .one
  /-- The range of the integer that further scales a mutated identifier. -/
  amplifier : Interval Int := ⟨1, 1⟩
  /-- The identifiers that may be mutated. -/
  affected : List String := []
deriving Inhabited

/-- Whether an identifier may be mutated. -/
def Mutation.affects (m : Mutation) (id : String) : Bool := m.enabled && m.affected.contains id

/-- The allowed solutions of an equation, and whether to show them. -/
structure SolutionSpec where
  /-- The range the solution must lie in, if any. -/
  range : Option (Interval Decimal) := none
  /-- Whether the solution is replaced by `?`. -/
  hide : Bool := false
deriving Inhabited

/-- How values replace identifiers in an equation. -/
inductive Substitution
  /-- Every occurrence of each identifier, one identifier after another. -/
  | literal
  /-- Whole tokens between operators and parentheses. -/
  | token
deriving DecidableEq, Inhabited

/-- How to assemble one equation. -/
structure EquationSpec where
  /-- The operators to choose from. -/
  operators : List Operator := []
  /-- How many variables, and from which combinations. -/
  selection : Selection
  /-- Mutation of identifiers. -/
  mutation : Mutation := {}
  /-- The rules of evaluation. -/
  rules : Rules := {}
  /-- The allowed solutions. -/
  solution : SolutionSpec := {}
  /-- How values replace identifiers. -/
  substitution : Substitution := .literal
deriving Inhabited

/-- The checks an equation's evaluation makes. -/
def EquationSpec.constraints (e : EquationSpec) : Constraints := ⟨e.rules, e.solution.range⟩

/-- A whole configuration. -/
structure Config where
  /-- How many quizzes. -/
  quiz : QuizSection
  /-- The variables, in declaration order. -/
  variableSpecs : List VariableSpec
  /-- The equations, in declaration order. -/
  equationSpecs : List EquationSpec
deriving Inhabited

end ArithQuiz
