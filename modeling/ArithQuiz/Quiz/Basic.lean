import ArithQuiz.Config.Basic
import ArithQuiz.Random.Source
import ArithQuiz.Binary64.Shortest
import ArithQuiz.Journal

/-!
# Quizzes

A quiz is a list of variables with drawn values and a list of equations, each
written twice: with identifiers and with values. Generation is made of
attempts that may fail and are retried a fixed number of times
(`attemptLimit`); the first success counts, and a unit whose attempts all
fail is left out. Each failed attempt is told, with its number and reason, in
the journal that the state carries.

Generation runs on a state that gives draws (`DrawSource`) and carries a
journal (`Journaled`); `Traced` puts a journal beside any source of draws.
-/

set_option autoImplicit false

namespace ArithQuiz

/-- A variable with its drawn value. -/
structure Variable where
  /-- The identifier. -/
  identifier : String
  /-- The value. -/
  value : Decimal
deriving Inhabited

/-- An equation written with identifiers and with values, each followed by
`=` and the solution (or `?`). -/
structure Equation where
  /-- The form with identifiers. -/
  identifiers : String
  /-- The form with values. -/
  values : String
deriving Inhabited

/-- One quiz. -/
structure Quiz where
  /-- The variables with their drawn values, in declaration order. -/
  drawnVariables : List Variable
  /-- The equations in declaration order. -/
  equations : List Equation
deriving Inhabited

/-- Why an equation specification cannot produce an equation at all. -/
inductive Inconsistency
  | noVariableCount
  | noOperators
  | noCombos
  | operatorCount (count operators : Nat)
  | chanceOutside (chance : Binary64)
  | emptyAmplifier (range : Interval Int)
deriving Inhabited

/-- The words for an inconsistency. -/
def Inconsistency.message : Inconsistency → String
  | noVariableCount => "required variable count must be positive"
  | noOperators => "no operands configured"
  | noCombos => "no variable combos configured"
  | operatorCount v o =>
    "expected " ++ toString (v - 1) ++ " operands for " ++ toString v ++ " variables, got " ++ toString o
  | chanceOutside c => "mutation chance " ++ c.plainText ++ " is outside [0, 1]"
  | emptyAmplifier r => "mutation amplifier range " ++ toString r.min ++ "..=" ++ toString r.max ++ " is empty"

/-- Why an attempt at a variable, an equation or a quiz failed. -/
inductive AttemptError
  /-- The specification cannot work as given. -/
  | inconsistent (reason : Inconsistency)
  /-- The assembled expression has no acceptable value. -/
  | invalidExpression (e : ExprError)
  /-- The value drawn for a variable belongs to a variable drawn before. -/
  | valueTaken (identifier : String) (value : Decimal)
  /-- A variable's range holds no integer. -/
  | emptyRange (identifier : String) (range : Interval Int)
  /-- A quiz attempt ended without variables or without equations. -/
  | incompleteQuiz (variableCount equationCount : Nat)
deriving Inhabited

/-- The sentence that reports a failed attempt. -/
def AttemptError.message : AttemptError → String
  | inconsistent r => "Configuration inconsistency: " ++ r.message
  | invalidExpression e => "Invalid expression: " ++ e.message
  | valueTaken id v => "Value " ++ v.toText ++ " for variable '" ++ id ++ "' is already taken"
  | emptyRange id r =>
    "Range " ++ toString r.min ++ "..=" ++ toString r.max ++ " of variable '" ++ id ++ "' is empty"
  | incompleteQuiz v e =>
    "Quiz has " ++ toString v ++ " variables and " ++ toString e ++ " equations"

/-- Attempts per variable, per equation and per quiz. -/
def attemptLimit : Nat := 100

/-- The attempts of a unit from attempt `number` on, `left` of them at most,
out of `limit`: each failure is told (at `debug`) before the next attempt. -/
def retryFrom {σ α : Type} [Journaled σ] (unit : String) (limit : Nat)
    (attempt : σ → Except AttemptError α × σ) : (number left : Nat) → σ → Option α × σ
  | _, 0, g => (none, g)
  | number, left + 1, g =>
    match attempt g with
    | (.ok a, g) => (some a, g)
    | (.error e, g) =>
      retryFrom unit limit attempt (number + 1) left (Journaled.note g .debug fun _ =>
        unit ++ " attempt " ++ toString number ++ "/" ++ toString limit ++ " failed: " ++ e.message)

/-- Runs `attempt` on a state until it succeeds, at most `limit` times,
threading the state through the attempts made; `unit` names what is
attempted in the journal. -/
def retry {σ α : Type} [Journaled σ] (unit : String) (attempt : σ → Except AttemptError α × σ)
    (limit : Nat) (g : σ) : Option α × σ :=
  retryFrom unit limit attempt 1 limit g

/-- A source of draws beside a journal: draws come from the source, records
go to the journal. -/
structure Traced (σ : Type) where
  /-- The source of draws. -/
  source : σ
  /-- The journal. -/
  journal : Journal

namespace Traced

open ArithQuiz.Random

variable {σ : Type}

instance : Journaled (Traced σ) := ⟨Traced.journal, fun t j => { t with journal := j }⟩

instance [DrawSource σ] : DrawSource (Traced σ) where
  uniformInt lo hi t :=
    let (n, g) := DrawSource.uniformInt lo hi t.source
    (n, { t with source := g })
  index len t :=
    let (i, g) := DrawSource.index len t.source
    (i, { t with source := g })
  bernoulli p t :=
    let (b, g) := DrawSource.bernoulli p t.source
    (b, { t with source := g })

/-- Runs a step on a source beside the silent journal, keeping the source. -/
def quietly {α : Type} (step : Traced σ → α × Traced σ) (g : σ) : α × σ :=
  let (a, t) := step ⟨g, .silent⟩
  (a, t.source)

end Traced

end ArithQuiz
