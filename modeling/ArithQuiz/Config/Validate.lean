import ArithQuiz.Config.Basic
import ArithQuiz.Identifier
import ArithQuiz.Json.Error
import ArithQuiz.Decimal.Text
import ArithQuiz.Files

/-!
# Checking a configuration

`Config.check` reports the first problem in this order: no variables, no
equations, no quizzes; then each variable (its identifier, then its range);
then each equation (operators, variable count, combinations, unknown combo
identifiers, solution range, and, when mutation is on, chance, amplifier
minimum, amplifier range and unknown affected identifiers). Variables and
equations are numbered from 1 in messages.

`Config.check` runs the same checks and tells in a journal as it goes: warnings
for a large quiz count, a large variable count and a mutation that affects no
variable, and each identifier check. `Config.validate` is the check without
the journal.

`ConfigError` gathers every way of not getting a usable configuration: the
file cannot be read, its JSON cannot be decoded, an identifier is refused, or
a rule above is broken.
-/

set_option autoImplicit false

namespace ArithQuiz

/-- A rule of a configuration that is broken. -/
inductive Violation
  | noVariables
  | noEquations
  | noQuizzes (amount : Nat)
  | emptyVariableRange (index : Nat) (identifier : String) (range : Interval Int)
  | noOperators (equation : Nat)
  | tooFewVariables (equation amount : Nat)
  | emptyCombos (equation : Nat)
  | unknownComboVariable (equation : Nat) (identifier : String)
  | emptySolutionRange (equation : Nat) (range : Interval Decimal)
  | chanceOutside (equation : Nat) (chance : Binary64)
  | amplifierBelowOne (equation : Nat)
  | emptyAmplifier (equation : Nat) (range : Interval Int)
  | unknownAffectedVariable (equation : Nat) (identifier : String)
deriving Inhabited

/-- The sentence that reports a broken rule. -/
def Violation.message : Violation → String
  | noVariables => "config does not contain any variables"
  | noEquations => "config does not contain any equations"
  | noQuizzes n => "invalid amount of quizzes: " ++ toString n
  | emptyVariableRange i id r =>
    "range minimum (" ++ toString r.min ++ ") of variable #" ++ toString i ++ " (" ++ id ++
      ") is bigger than its maximum (" ++ toString r.max ++ ")"
  | noOperators n => "equation #" ++ toString n ++ " has no operands set"
  | tooFewVariables n a =>
    "invalid amount of variables (" ++ toString a ++ ") for equation #" ++ toString n ++
      ", must be at least 2"
  | emptyCombos n =>
    "equation #" ++ toString n ++ " needs at least one variable combo, each with at least one variable"
  | unknownComboVariable n id =>
    "combo variable '" ++ id ++ "' of equation #" ++ toString n ++ " does not match any defined variable"
  | emptySolutionRange n r =>
    "solution range minimum (" ++ r.min.toText ++ ") of equation #" ++ toString n ++
      " is bigger than its maximum (" ++ r.max.toText ++ ")"
  | chanceOutside n c =>
    "invalid mutation chance (" ++ c.plainText ++ ") for equation #" ++ toString n
  | amplifierBelowOne n => "mutation amplifier minimum for equation #" ++ toString n ++ " must be at least 1"
  | emptyAmplifier n r =>
    "mutation amplifier range minimum (" ++ toString r.min ++ ") of equation #" ++ toString n ++
      " is bigger than its maximum (" ++ toString r.max ++ ")"
  | unknownAffectedVariable n id =>
    "mutation-affected variable '" ++ id ++ "' of equation #" ++ toString n ++
      " does not match any defined variable"

/-- Why no usable configuration was obtained. -/
inductive ConfigError
  /-- The file could not be read. -/
  | unreadable (path : String) (fault : FileFault)
  /-- The JSON could not be decoded. -/
  | malformed (e : Json.Error)
  /-- A variable's identifier is refused. -/
  | identifier (e : IdentifierError)
  /-- A rule is broken. -/
  | invalid (v : Violation)
deriving Inhabited

/-- The sentence that reports a configuration error. -/
def ConfigError.message : ConfigError → String
  | unreadable p f => "Failed to read config file '" ++ p ++ "': " ++ f.message
  | malformed e => "Failed to parse config: " ++ e.message
  | identifier e => "Invalid identifier: " ++ e.message
  | invalid v => v.message

/-- The messages of the errors beneath a configuration error, outermost
first: the file fault, the decoding error, or the identifier error that the
message already quotes. -/
def ConfigError.causes : ConfigError → List String
  | unreadable _ f => [f.message]
  | malformed e => [e.message]
  | identifier e => [e.message]
  | invalid _ => []

/-- Whether a chance is a probability. -/
def isProbability (x : Binary64) : Bool := decide (0 ≤ x.toRat) && decide (x.toRat ≤ 1)

/-- More quizzes than this are worth a warning. -/
def manyQuizzes : Nat := 10000

/-- More variables in one equation than this are worth a warning. -/
def manyVariables : Nat := 10

/-- A check that stops at the first configuration error and tells in a
journal as it goes. -/
abbrev Checking := ExceptT ConfigError (StateM Journal)

/-- Checks an equation, numbered `n`, against the variables `known`. It warns
of a large variable count, and of a mutation that affects no variable. -/
def EquationSpec.check (known : List String) (n : Nat) (e : EquationSpec) : Checking Unit := do
  let fail (v : Violation) : Checking Unit := throw (.invalid v)
  if e.operators.isEmpty then fail (.noOperators n)
  if e.selection.amount < 2 then fail (.tooFewVariables n e.selection.amount)
  if e.selection.amount > manyVariables then
    note .warn fun _ =>
      "generating equations with more than " ++ toString manyVariables ++
        " variables may take significantly longer (equation #" ++ toString n ++ ": " ++
        toString e.selection.amount ++ " variables)"
  if e.selection.combos.isEmpty || e.selection.combos.any List.isEmpty then fail (.emptyCombos n)
  match e.selection.combos.flatten.find? (fun id => !known.contains id) with
  | some id => fail (.unknownComboVariable n id)
  | none => pure ()
  match e.solution.range with
  | some r => if r.isEmpty then fail (.emptySolutionRange n r)
  | none => pure ()
  let m := e.mutation
  if m.enabled then
    if !isProbability m.chance then fail (.chanceOutside n m.chance)
    if m.amplifier.min < 1 then fail (.amplifierBelowOne n)
    if m.amplifier.isEmpty then fail (.emptyAmplifier n m.amplifier)
    if m.affected.isEmpty then
      note .warn fun _ =>
        "no variables to be affected by mutation defined for equation #" ++ toString n
    match m.affected.find? (fun id => !known.contains id) with
    | some id => fail (.unknownAffectedVariable n id)
    | none => pure ()

/-- Checks a configuration; the first broken rule is reported. It tells the
start and the success of the check (at `debug`), warns of a large quiz count,
and tells each identifier check. -/
def Config.check (c : Config) : Checking Unit := do
  let fail (v : Violation) : Checking Unit := throw (.invalid v)
  note .debug fun _ => "Validating config"
  if c.variableSpecs.isEmpty then fail .noVariables
  if c.equationSpecs.isEmpty then fail .noEquations
  if c.quiz.amount < 1 then fail (.noQuizzes c.quiz.amount)
  if c.quiz.amount > manyQuizzes then
    note .warn fun _ =>
      "generating more than " ++ toString manyQuizzes ++ " quizzes (" ++ toString c.quiz.amount ++
        ") may take longer than expected"
  (c.variableSpecs.zipIdx 1).forM fun (v, i) => do
    match ← checkIdentifierNoting v.identifier with
    | .error e => throw (.identifier e)
    | .ok () => pure ()
    if v.range.isEmpty then fail (.emptyVariableRange i v.identifier v.range)
  let known := c.variableSpecs.map (·.identifier)
  (c.equationSpecs.zipIdx 1).forM fun (e, i) => e.check known i
  note .debug fun _ => "Config validation successful"

/-- Checks a configuration without telling; the first broken rule is
reported. -/
def Config.validate (c : Config) : Except ConfigError Unit :=
  (c.check.run.run Journal.silent).1

end ArithQuiz
