import ArithQuiz.Decimal.Text

/-!
# Why an expression has no value

One constructor per cause, from the text (empty, malformed, a bad number) to
the arithmetic (a zero divisor) and the rules a quiz may impose (no division
of a value by itself, no subtraction of a term from itself, no negative or
fractional step, a solution inside a range and whole). `ExprError.message`
is the one place that words them.
-/

set_option autoImplicit false

namespace ArithQuiz

/-- Why building or evaluating an expression failed. -/
inductive ExprError
  /-- The text is blank. -/
  | empty
  /-- An operator was left over with no parentheses around it to strip. -/
  | malformed (text : String)
  /-- A leaf is not a decimal number. -/
  | invalidNumber (text : String)
  /-- A divisor evaluated to zero. -/
  | divisionByZero
  /-- A running value was divided by an operand of the same text. -/
  | selfDivision (node left right : String)
  /-- A term is subtracted right after the same term. -/
  | selfSubtraction (node : String)
  /-- A step of the node gave a negative value. -/
  | negativeResult (node : String) (value : Decimal)
  /-- A step of the node gave a value with a fractional part. -/
  | decimalResult (node : String) (value : Decimal)
  /-- The solution lies outside the allowed range. -/
  | outOfRange (value min max : Decimal)
  /-- The solution has a fractional part. -/
  | fractionalSolution (value : Decimal)
deriving Inhabited

namespace ExprError

/-- The sentence that reports the error. -/
def message : ExprError → String
  | empty => "Expression is empty"
  | malformed t => "Malformed expression: '" ++ t ++ "'"
  | invalidNumber t => "Invalid number: '" ++ t ++ "'"
  | divisionByZero => "Division by zero"
  | selfDivision node l r => "Self-division at node '" ++ node ++ "': '" ++ l ++ "/" ++ r ++ "'"
  | selfSubtraction node => "Self-subtraction at node '" ++ node ++ "'"
  | negativeResult node v => "Negative result at node '" ++ node ++ "': " ++ v.toText
  | decimalResult node v => "Decimal result at node '" ++ node ++ "': " ++ v.toText
  | outOfRange v lo hi =>
    "Solution " ++ v.toText ++ " is outside the range " ++ lo.toText ++ "..=" ++ hi.toText
  | fractionalSolution v => "Solution " ++ v.toText ++ " is not an integer"

end ExprError

namespace Decimal

/-- Reads a number, failing with `invalidNumber` on the whole text. -/
def parse (s : String) : Except ExprError Decimal :=
  match ofText? s with
  | some d => .ok d
  | none => .error (.invalidNumber s)

end Decimal

end ArithQuiz
