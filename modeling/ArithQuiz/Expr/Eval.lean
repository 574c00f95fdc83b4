import ArithQuiz.Expr.Build
import ArithQuiz.Interval
import ArithQuiz.Journal

/-!
# Evaluating a tree

A node folds its operator over its children from left to right, in exact
decimal arithmetic. Each child enters the fold with a value and a text: a
leaf with its own text, a node with the canonical text of its value.

A quiz may forbid some shapes and values (`Rules`); the checks run in this
order:

* before any child of a `-` node is evaluated, no child may repeat the text of
  the child before it, nor the last term of a `+` child before it;
* at each step of a fold, a `/` node may not divide by an operand whose text
  equals the running text; then the step is applied (a zero divisor fails);
  then the step's value may be neither negative nor fractional;
* after the root, the solution must lie in the allowed range and then be whole.

A leaf alone is never checked by the step rules.
-/

set_option autoImplicit false

namespace ArithQuiz

/-- The shapes and values a quiz forbids while an expression is evaluated. -/
structure Rules where
  /-- No division of a running value by an operand of the same text. -/
  selfDivision : Bool := false
  /-- No subtraction of a term right after the same term. -/
  selfSubtraction : Bool := false
  /-- No negative value after a step. -/
  negativeResults : Bool := false
  /-- No fractional value after a step. -/
  decimalResults : Bool := false
  /-- No fractional solution. -/
  decimalSolution : Bool := false
deriving DecidableEq, Inhabited

/-- What solving checks beyond arithmetic: the rules and the allowed range of
the solution. -/
structure Constraints where
  /-- The rules of the evaluation. -/
  rules : Rules := {}
  /-- The range the solution must lie in, if any. -/
  range : Option (Interval Decimal) := none
deriving Inhabited

namespace Operator

/-- One step of a fold: the running value and the next operand. -/
def apply : Operator → Decimal → Decimal → Except ExprError Decimal
  | add, a, b => .ok (a + b)
  | sub, a, b => .ok (a - b)
  | mul, a, b => .ok (a * b)
  | div, a, b =>
    match a.div? b with
    | some q => .ok q
    | none => .error .divisionByZero

end Operator

namespace Expr

/-- Whether a term repeats before a subtraction: `n` has the text of `c`, or
`c` is a sum whose last term has the text of `n`. -/
def repeatsBefore (c n : Expr) : Bool :=
  c.text == n.text ||
    match c with
    | node _ .add cs => cs.getLast?.map (·.text) == some n.text
    | leaf _ => false
    | node .. => false

/-- Whether some child repeats the term before it, for the subtraction rule. -/
def hasSelfSubtraction : List Expr → Bool
  | c :: n :: rest => repeatsBefore c n || hasSelfSubtraction (n :: rest)
  | _ => false

/-- The text an operand is compared by in the division rule: a leaf's own
text, or the canonical text of a node's value `v`. -/
def operandText : Expr → Decimal → String
  | leaf t, _ => t
  | node .., v => v.toText

mutual
/-- The value of an operand. -/
def operand (rules : Rules) : Expr → Except ExprError Decimal
  | leaf t => Decimal.parse t
  | node t op cs => nodeValue rules t op cs

/-- The value of a node with text `t`, operator `op` and children `cs`. -/
def nodeValue (rules : Rules) (t : String) (op : Operator) : List Expr → Except ExprError Decimal
  | [] => .error (.malformed t)
  | first :: rest =>
    if rules.selfSubtraction && op == .sub && hasSelfSubtraction (first :: rest) then
      .error (.selfSubtraction t)
    else do
      let v ← operand rules first
      foldSteps rules t op v (some first) rest

/-- Folds the remaining children into the running value `acc`. The running
text is the text of `first` while the running value is still that of the first
child, and the canonical text of `acc` after a step; it is written only when
the division rule compares it. -/
def foldSteps (rules : Rules) (t : String) (op : Operator) (acc : Decimal) (first : Option Expr) :
    List Expr → Except ExprError Decimal
  | [] => .ok acc
  | c :: cs => do
    let v ← operand rules c
    if rules.selfDivision && op == .div then
      let accText := match first with
        | some e => operandText e acc
        | none => acc.toText
      let vt := operandText c v
      if accText == vt then throw (.selfDivision t accText vt)
    let r ← op.apply acc v
    if rules.negativeResults && r.isNegative then throw (.negativeResult t r)
    if rules.decimalResults && !r.isInteger then throw (.decimalResult t r)
    foldSteps rules t op r none cs
end

/-- The value of a tree under the step rules. -/
def value (rules : Rules) : Expr → Except ExprError Decimal
  | leaf t => Decimal.parse t
  | node t op cs => nodeValue rules t op cs

/-- The solution checks: the range first, then wholeness. -/
def checkSolution (c : Constraints) (v : Decimal) : Except ExprError Decimal :=
  match c.range with
  | some r =>
    if !r.contains v then .error (.outOfRange v r.min r.max)
    else if c.rules.decimalSolution && !v.isInteger then .error (.fractionalSolution v)
    else .ok v
  | none =>
    if c.rules.decimalSolution && !v.isInteger then .error (.fractionalSolution v)
    else .ok v

/-- The value of a tree with all checks. -/
def evaluate (c : Constraints) (e : Expr) : Except ExprError Decimal := do
  checkSolution c (← e.value c.rules)

/-- Solves the left side of an equation text (all before the first `=`). -/
def solve (c : Constraints) (s : String) : Except ExprError Decimal := do
  evaluate c (← buildEquation s)

/-- Evaluates as `evaluate` does, telling the text evaluated and then the
value or the error, all at `debug`. -/
def evaluateNoting (c : Constraints) (t : Expr) : StateM Journal (Except ExprError Decimal) := do
  note .debug fun _ => "Evaluating expression: " ++ t.text
  match evaluate c t with
  | .ok v =>
    note .debug fun _ => "Expression evaluated to: " ++ v.toText
    pure (.ok v)
  | .error e =>
    note .debug fun _ => "Expression evaluation failed: " ++ e.message
    pure (.error e)

/-- Telling changes no answer: `evaluateNoting` gives what `evaluate` gives. -/
theorem evaluateNoting_run_fst (c : Constraints) (t : Expr) (j : Journal) :
    ((evaluateNoting c t).run j).1 = evaluate c t := by
  unfold evaluateNoting
  cases evaluate c t <;> rfl

/-- Solves as `solve` does, telling the tree built (at `trace`) before it is
evaluated by `evaluateNoting`. A text that builds no tree tells nothing. -/
def solveNoting (c : Constraints) (s : String) : StateM Journal (Except ExprError Decimal) := do
  match buildChars (equationLeft s) with
  | .error e => pure (.error e)
  | .ok t =>
    note .trace fun _ => "Built tree " ++ t.render ++ " from '" ++ String.ofList (equationLeft s) ++ "'"
    evaluateNoting c t

/-- Telling changes no answer: `solveNoting` gives what `solve` gives. -/
theorem solveNoting_run_fst (c : Constraints) (s : String) (j : Journal) :
    ((solveNoting c s).run j).1 = solve c s := by
  unfold solveNoting solve buildEquation
  cases buildChars (equationLeft s) with
  | error e => rfl
  | ok t => exact evaluateNoting_run_fst c t _

end Expr

end ArithQuiz
