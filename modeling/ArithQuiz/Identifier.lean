import ArithQuiz.Expr.Basic
import ArithQuiz.Journal
import ArithQuiz.Text.Blank

/-!
# Variable identifiers

An identifier names a variable in equations. It may hold any characters but
must not be blank (only `White_Space` characters) and must not contain a
reserved character: an operator, a parenthesis, or `=`. The first reserved
character is the one reported. `checkIdentifierNoting` tells the check (at
`debug`) and a refusal (at `warn`) in a journal; `checkIdentifierNoting_run_fst`
says that it gives the same answer.
-/

set_option autoImplicit false

namespace ArithQuiz

/-- Why a text cannot be an identifier. -/
inductive IdentifierError
  /-- It holds blank characters only. -/
  | blank
  /-- It holds a reserved character. -/
  | reserved (identifier : String) (symbol : Char)
deriving DecidableEq, Inhabited

/-- The sentence that reports an identifier error. -/
def IdentifierError.message : IdentifierError → String
  | blank => "Identifier cannot be blank"
  | reserved id c => "Identifier '" ++ id ++ "' contains reserved character '" ++ c.toString ++ "'"

/-- The characters an identifier must not contain. -/
def isReserved (c : Char) : Bool :=
  Operator.isSymbol c || c = '(' || c = ')' || c = '='

/-- Checks that a text can name a variable. -/
def checkIdentifier (s : String) : Except IdentifierError Unit :=
  if Text.isBlankText s then .error .blank
  else
    match s.toList.find? isReserved with
    | some c => .error (.reserved s c)
    | none => .ok ()

/-- Checks as `checkIdentifier` does, telling the text checked and then a
refusal: a blank text is told in words of its own, a reserved character by
the error's own sentence. -/
def checkIdentifierNoting (s : String) : StateM Journal (Except IdentifierError Unit) := do
  note .debug fun _ => "Validating identifier: '" ++ s ++ "'"
  match checkIdentifier s with
  | .ok () => pure (.ok ())
  | .error .blank =>
    note .warn fun _ => "Identifier is blank"
    pure (.error .blank)
  | .error e =>
    note .warn fun _ => e.message
    pure (.error e)

/-- Telling changes no answer. -/
theorem checkIdentifierNoting_run_fst (s : String) (j : Journal) :
    ((checkIdentifierNoting s).run j).1 = checkIdentifier s := by
  unfold checkIdentifierNoting
  cases checkIdentifier s with
  | ok u => rfl
  | error e => cases e <;> rfl

end ArithQuiz
