import ArithQuiz.Quiz.Substitute
import ArithQuiz.Expr.Eval

/-!
# Assembling an equation

One attempt, its random choices in this order:

1. a variable count of zero fails at once;
2. one operator per gap between variables, each chosen from the listed ones;
3. one combination of identifiers;
4. the variables of the combination, first one per identifier in combination
   order (up to the count), then further ones chosen from the combination's
   variables until the count is reached;
5. each identifier in turn may be mutated: with the mutation chance it is
   multiplied by the multiplier and by an amplifier drawn from its range.

The identifier form is the identifiers joined by the operators; the value form
substitutes the values; the value form is solved with the equation's rules,
and `=` and the solution (or `?` when hidden) end both forms. The draws come
from any `DrawSource`. Both forms are told (at `trace`) before the value form
is solved, and the solving tells as `Expr.solveNoting` does.
-/

set_option autoImplicit false

namespace ArithQuiz

open ArithQuiz.Random

variable {σ : Type} [DrawSource σ]

/-- Chooses `n` operators from a list; an empty list fails at the first choice. -/
def chooseOperators (ops : List Operator) : Nat → σ → Option (List Operator) × σ
  | 0, g => (some [], g)
  | n + 1, g =>
    match DrawSource.choose ops g with
    | (none, g) => (none, g)
    | (some op, g) =>
      match chooseOperators ops n g with
      | (some rest, g) => (some (op :: rest), g)
      | (none, g) => (none, g)

/-- The first variable of each identifier of a combination, in combination
order, at most `amount` of them. -/
def pickInOrder (amount : Nat) (pool : List Variable) : List String → List Variable → List Variable
  | [], acc => acc
  | id :: ids, acc =>
    if acc.length = amount then acc
    else
      match pool.find? (·.identifier == id) with
      | some v => pickInOrder amount pool ids (acc ++ [v])
      | none => pickInOrder amount pool ids acc

/-- Adds variables chosen from the pool, `missing` more at most, stopping when
the pool is empty. -/
def fillFromPool (pool : List Variable) : Nat → List Variable → σ → List Variable × σ
  | 0, acc, g => (acc, g)
  | n + 1, acc, g =>
    match DrawSource.choose pool g with
    | (some v, g) => fillFromPool pool n (acc ++ [v]) g
    | (none, g) => (acc, g)

/-- The identifier itself, or its mutated form; `p` is the mutation chance
as a rational, `m.chance.toRat`, worked out once by the caller. -/
def Mutation.applyWith (m : Mutation) (p : Rat) (id : String) (g : σ) :
    Except AttemptError String × σ :=
  if !m.affects id then (.ok id, g)
  else if !(decide (0 ≤ p) && decide (p ≤ 1)) then
    (.error (.inconsistent (.chanceOutside m.chance)), g)
  else
    let (hit, g) := DrawSource.bernoulli p g
    if !hit then (.ok id, g)
    else
      let scaled := match m.multiplier.literal? with
        | some lit => "(" ++ id ++ "*" ++ lit ++ ")"
        | none => id
      if m.amplifier.isEmpty then (.error (.inconsistent (.emptyAmplifier m.amplifier)), g)
      else
        let (a, g) := DrawSource.uniformInt m.amplifier.min m.amplifier.max g
        if a = 1 then (.ok scaled, g) else (.ok ("(" ++ toString a ++ "*" ++ scaled ++ ")"), g)

/-- The identifier itself, or its mutated form. -/
def Mutation.apply (m : Mutation) (id : String) (g : σ) : Except AttemptError String × σ :=
  m.applyWith m.chance.toRat id g

/-- The identifier form with the chance `p = m.chance.toRat` given: each
identifier (perhaps mutated) followed by the operator of the same position, if
any. -/
def identifierFormWith (m : Mutation) (p : Rat) : List Variable → List Operator → σ →
    Except AttemptError String × σ
  | [], _, g => (.ok "", g)
  | v :: vs, ops, g =>
    match m.applyWith p v.identifier g with
    | (.error e, g) => (.error e, g)
    | (.ok text, g) =>
      let sep := match ops with
        | op :: _ => op.symbol.toString
        | [] => ""
      match identifierFormWith m p vs ops.tail g with
      | (.error e, g) => (.error e, g)
      | (.ok rest, g) => (.ok (text ++ sep ++ rest), g)

/-- The identifier form: each identifier (perhaps mutated) followed by the
operator of the same position, if any. -/
def identifierForm (m : Mutation) (vs : List Variable) (ops : List Operator) (g : σ) :
    Except AttemptError String × σ :=
  identifierFormWith m m.chance.toRat vs ops g

/-- One attempt to assemble an equation from drawn variables. -/
def EquationSpec.assemble [Journaled σ] (spec : EquationSpec) (vars : List Variable) (g : σ) :
    Except AttemptError Equation × σ :=
  let amount := spec.selection.amount
  if amount = 0 then (.error (.inconsistent .noVariableCount), g)
  else
    match chooseOperators spec.operators (amount - 1) g with
    | (none, g) => (.error (.inconsistent .noOperators), g)
    | (some ops, g) =>
      match DrawSource.choose spec.selection.combos g with
      | (none, g) => (.error (.inconsistent .noCombos), g)
      | (some combo, g) =>
        let pool := vars.filter (fun v => combo.contains v.identifier)
        let first := pickInOrder amount pool combo []
        let (ordered, g) := fillFromPool pool (amount - first.length) first g
        if ops.length + 1 ≠ ordered.length then
          (.error (.inconsistent (.operatorCount ordered.length ops.length)), g)
        else
          match identifierForm spec.mutation ordered ops g with
          | (.error e, g) => (.error e, g)
          | (.ok idForm, g) =>
            let valueForm := spec.substitution.apply idForm ordered
            let g := Journaled.note g .trace fun _ =>
              "Assembled '" ++ idForm ++ "' as '" ++ valueForm ++ "'"
            match Journaled.along (Expr.solveNoting spec.constraints valueForm) g with
            | (.error e, g) => (.error (.invalidExpression e), g)
            | (.ok v, g) =>
              let solution := if spec.solution.hide then "?" else v.toText
              (.ok ⟨idForm ++ "=" ++ solution, valueForm ++ "=" ++ solution⟩, g)

end ArithQuiz
