import ArithQuiz.Config.Basic
import ArithQuiz.Json.Decode

/-!
# Reading configurations from JSON

Keys are written in kebab case. Each record may also be given as an array of
its fields in declaration order. Fields with a default may be left out:
operators, mutation, rules, solution and substitution of an equation, the
equation order of the quiz section, and every field of a mutation, of the
rules and of a solution. A multiplier must be a number equal to 0.25, 0.5 or
1. Ranges are arrays of exactly two bounds.

The decoders work on any `Json.Source`, so the same reading applies to text
and to values already read.
-/

set_option autoImplicit false

namespace ArithQuiz

open Json Decoder

variable {σ : Type} [Source σ]

/-- The expected-kind text of a record read from an array. -/
def recordArity (name : String) (n : Nat) : String :=
  "struct " ++ name ++ " with " ++ toString n ++ (if n = 1 then " element" else " elements")

/-- A range of 64-bit integers. -/
def intervalInt : Decoder σ (Interval Int) := do
  let (lo, hi) ← pair int64
  pure ⟨lo, hi⟩

/-- A range of decimals. -/
def intervalDecimal : Decoder σ (Interval Decimal) := do
  let (lo, hi) ← pair decimal
  pure ⟨lo, hi⟩

namespace Operator

/-- The names of the operators, in declaration order. -/
def names : List String := ["+", "-", "*", "/"]

/-- The operator a name denotes. -/
def ofName (s : String) : Except Problem Operator :=
  match s with
  | "+" => .ok .add
  | "-" => .ok .sub
  | "*" => .ok .mul
  | "/" => .ok .div
  | _ => .error (.unknownVariant s names)

/-- An operator, given by its symbol. -/
def decoder : Decoder σ Operator := Source.variant ofName

end Operator

namespace Substitution

/-- The substitution a name denotes. -/
def ofName (s : String) : Except Problem Substitution :=
  match s with
  | "literal" => .ok .literal
  | "token" => .ok .token
  | _ => .error (.unknownVariant s ["literal", "token"])

/-- A substitution mode, by name. -/
def decoder : Decoder σ Substitution := Source.variant ofName

end Substitution

namespace Multiplier

/-- The multiplier equal to a double, or the reason there is none. -/
def ofBinary64 (x : Binary64) : Except Problem Multiplier :=
  if x.toRat = 1 / 4 then .ok .quarter
  else if x.toRat = 1 / 2 then .ok .half
  else if x.toRat = 1 then .ok .one
  else .error (.custom ("invalid mutation multiplier " ++ x.plainText ++ ", expected 0.25, 0.5 or 1"))

/-- A multiplier, given as a number. -/
def decoder : Decoder σ Multiplier := do
  match ofBinary64 (← float) with
  | .ok m => pure m
  | .error p => fail p

end Multiplier

namespace QuizSection

/-- Fields met so far. -/
structure Partial where
  amount : Option Nat := none
  equationOrder : Option (List Nat) := none

/-- A quiz section. -/
def decoder : Decoder σ QuizSection :=
  let arity := recordArity "QuizConfig" 2
  record "QuizConfig"
    (do
      let p ← members ({} : Partial) fun p k =>
        match k with
        | "amount" => do
          let v ← field k p.amount.isSome uint64
          pure { p with amount := some v }
        | "equation-order" => do
          let v ← field k p.equationOrder.isSome (seq uint64)
          pure { p with equationOrder := some v }
        | _ => do skipField; pure p
      let amount ← required "amount" p.amount
      pure ⟨amount, p.equationOrder.getD []⟩)
    (do
      let amount ← positional 0 arity uint64 none
      let order ← positional 1 arity (seq uint64) (some [])
      pure ⟨amount, order⟩)

end QuizSection

namespace VariableSpec

/-- Fields met so far. -/
structure Partial where
  identifier : Option String := none
  range : Option (Interval Int) := none

/-- A variable. -/
def decoder : Decoder σ VariableSpec :=
  let arity := recordArity "VariableConfig" 2
  record "VariableConfig"
    (do
      let p ← members ({} : Partial) fun p k =>
        match k with
        | "identifier" => do
          let v ← field k p.identifier.isSome string
          pure { p with identifier := some v }
        | "range" => do
          let v ← field k p.range.isSome intervalInt
          pure { p with range := some v }
        | _ => do skipField; pure p
      let identifier ← required "identifier" p.identifier
      let range ← required "range" p.range
      pure ⟨identifier, range⟩)
    (do
      let identifier ← positional 0 arity string none
      let range ← positional 1 arity intervalInt none
      pure ⟨identifier, range⟩)

end VariableSpec

namespace Selection

/-- Fields met so far. -/
structure Partial where
  amount : Option Nat := none
  combos : Option (List (List String)) := none

/-- How many variables an equation takes, and from which combinations. -/
def decoder : Decoder σ Selection :=
  let arity := recordArity "EquationVariableConfig" 2
  record "EquationVariableConfig"
    (do
      let p ← members ({} : Partial) fun p k =>
        match k with
        | "amount" => do
          let v ← field k p.amount.isSome uint64
          pure { p with amount := some v }
        | "combos" => do
          let v ← field k p.combos.isSome (seq (seq string))
          pure { p with combos := some v }
        | _ => do skipField; pure p
      let amount ← required "amount" p.amount
      let combos ← required "combos" p.combos
      pure ⟨amount, combos⟩)
    (do
      let amount ← positional 0 arity uint64 none
      let combos ← positional 1 arity (seq (seq string)) none
      pure ⟨amount, combos⟩)

end Selection

namespace Mutation

/-- Fields met so far. -/
structure Partial where
  enabled : Option Bool := none
  chance : Option Binary64 := none
  multiplier : Option Multiplier := none
  amplifier : Option (Interval Int) := none
  affected : Option (List String) := none

/-- A mutation; every field has a default. -/
def decoder : Decoder σ Mutation :=
  let arity := recordArity "MutationConfig" 5
  let d : Mutation := {}
  record "MutationConfig"
    (do
      let p ← members ({} : Partial) fun p k =>
        match k with
        | "enabled" => do
          let v ← field k p.enabled.isSome bool
          pure { p with enabled := some v }
        | "chance" => do
          let v ← field k p.chance.isSome float
          pure { p with chance := some v }
        | "multiplier" => do
          let v ← field k p.multiplier.isSome Multiplier.decoder
          pure { p with multiplier := some v }
        | "amplifier" => do
          let v ← field k p.amplifier.isSome intervalInt
          pure { p with amplifier := some v }
        | "affected-variables" => do
          let v ← field k p.affected.isSome (seq string)
          pure { p with affected := some v }
        | _ => do skipField; pure p
      pure ⟨p.enabled.getD d.enabled, p.chance.getD d.chance, p.multiplier.getD d.multiplier,
        p.amplifier.getD d.amplifier, p.affected.getD d.affected⟩)
    (do
      let enabled ← positional 0 arity bool (some d.enabled)
      let chance ← positional 1 arity float (some d.chance)
      let multiplier ← positional 2 arity Multiplier.decoder (some d.multiplier)
      let amplifier ← positional 3 arity intervalInt (some d.amplifier)
      let affected ← positional 4 arity (seq string) (some d.affected)
      pure ⟨enabled, chance, multiplier, amplifier, affected⟩)

end Mutation

namespace Rules

/-- Fields met so far. -/
structure Partial where
  selfDivision : Option Bool := none
  selfSubtraction : Option Bool := none
  negativeResults : Option Bool := none
  decimalResults : Option Bool := none
  decimalSolution : Option Bool := none

/-- Evaluation rules; every rule is off unless given. -/
def decoder : Decoder σ Rules :=
  let arity := recordArity "ValidationRules" 5
  record "ValidationRules"
    (do
      let p ← members ({} : Partial) fun p k =>
        match k with
        | "self-division" => do
          let v ← field k p.selfDivision.isSome bool
          pure { p with selfDivision := some v }
        | "self-subtraction" => do
          let v ← field k p.selfSubtraction.isSome bool
          pure { p with selfSubtraction := some v }
        | "negative-results" => do
          let v ← field k p.negativeResults.isSome bool
          pure { p with negativeResults := some v }
        | "decimal-results" => do
          let v ← field k p.decimalResults.isSome bool
          pure { p with decimalResults := some v }
        | "decimal-solution" => do
          let v ← field k p.decimalSolution.isSome bool
          pure { p with decimalSolution := some v }
        | _ => do skipField; pure p
      pure ⟨p.selfDivision.getD false, p.selfSubtraction.getD false, p.negativeResults.getD false,
        p.decimalResults.getD false, p.decimalSolution.getD false⟩)
    (do
      let a ← positional 0 arity bool (some false)
      let b ← positional 1 arity bool (some false)
      let c ← positional 2 arity bool (some false)
      let d ← positional 3 arity bool (some false)
      let e ← positional 4 arity bool (some false)
      pure ⟨a, b, c, d, e⟩)

end Rules

namespace SolutionSpec

/-- Fields met so far. -/
structure Partial where
  range : Option (Option (Interval Decimal)) := none
  hide : Option Bool := none

/-- The allowed solutions; no range and shown unless given. -/
def decoder : Decoder σ SolutionSpec :=
  let arity := recordArity "SolutionConfig" 2
  record "SolutionConfig"
    (do
      let p ← members ({} : Partial) fun p k =>
        match k with
        | "range" => do
          let v ← field k p.range.isSome (option intervalDecimal)
          pure { p with range := some v }
        | "hide" => do
          let v ← field k p.hide.isSome bool
          pure { p with hide := some v }
        | _ => do skipField; pure p
      pure ⟨p.range.getD none, p.hide.getD false⟩)
    (do
      let range ← positional 0 arity (option intervalDecimal) (some none)
      let hide ← positional 1 arity bool (some false)
      pure ⟨range, hide⟩)

end SolutionSpec

namespace EquationSpec

/-- Fields met so far. -/
structure Partial where
  operators : Option (List Operator) := none
  selection : Option Selection := none
  mutation : Option Mutation := none
  rules : Option Rules := none
  solution : Option SolutionSpec := none
  substitution : Option Substitution := none

/-- An equation. -/
def decoder : Decoder σ EquationSpec :=
  let arity := recordArity "EquationConfig" 6
  record "EquationConfig"
    (do
      let p ← members ({} : Partial) fun p k =>
        match k with
        | "operands" => do
          let v ← field k p.operators.isSome (seq Operator.decoder)
          pure { p with operators := some v }
        | "variables" => do
          let v ← field k p.selection.isSome Selection.decoder
          pure { p with selection := some v }
        | "mutation" => do
          let v ← field k p.mutation.isSome Mutation.decoder
          pure { p with mutation := some v }
        | "validate" => do
          let v ← field k p.rules.isSome Rules.decoder
          pure { p with rules := some v }
        | "solution" => do
          let v ← field k p.solution.isSome SolutionSpec.decoder
          pure { p with solution := some v }
        | "substitution" => do
          let v ← field k p.substitution.isSome Substitution.decoder
          pure { p with substitution := some v }
        | _ => do skipField; pure p
      let selection ← required "variables" p.selection
      pure ⟨p.operators.getD [], selection, p.mutation.getD {}, p.rules.getD {},
        p.solution.getD {}, p.substitution.getD .literal⟩)
    (do
      let operators ← positional 0 arity (seq Operator.decoder) (some [])
      let selection ← positional 1 arity Selection.decoder none
      let mutation ← positional 2 arity Mutation.decoder (some {})
      let rules ← positional 3 arity Rules.decoder (some {})
      let solution ← positional 4 arity SolutionSpec.decoder (some {})
      let substitution ← positional 5 arity Substitution.decoder (some .literal)
      pure ⟨operators, selection, mutation, rules, solution, substitution⟩)

end EquationSpec

namespace Config

/-- Fields met so far. -/
structure Partial where
  quiz : Option QuizSection := none
  variableSpecs : Option (List VariableSpec) := none
  equationSpecs : Option (List EquationSpec) := none

/-- A whole configuration. -/
def decoder : Decoder σ Config :=
  let arity := recordArity "Config" 3
  record "Config"
    (do
      let p ← members ({} : Partial) fun p k =>
        match k with
        | "quiz" => do
          let v ← field k p.quiz.isSome QuizSection.decoder
          pure { p with quiz := some v }
        | "variables" => do
          let v ← field k p.variableSpecs.isSome (seq VariableSpec.decoder)
          pure { p with variableSpecs := some v }
        | "equations" => do
          let v ← field k p.equationSpecs.isSome (seq EquationSpec.decoder)
          pure { p with equationSpecs := some v }
        | _ => do skipField; pure p
      let quiz ← required "quiz" p.quiz
      let specs ← required "variables" p.variableSpecs
      let equationSpecs ← required "equations" p.equationSpecs
      pure ⟨quiz, specs, equationSpecs⟩)
    (do
      let quiz ← positional 0 arity QuizSection.decoder none
      let specs ← positional 1 arity (seq VariableSpec.decoder) none
      let equationSpecs ← positional 2 arity (seq EquationSpec.decoder) none
      pure ⟨quiz, specs, equationSpecs⟩)

end Config

end ArithQuiz
