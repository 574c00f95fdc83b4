import Mathlib.Data.List.Chain
import Mathlib.Data.Rat.Defs
import ArithQuiz.Proofs.Expr.Solve

/-!
# `ArithQuiz.Proofs.Expr.Rules`: what the rules let through

The evaluator runs the rules of a quiz interleaved with the arithmetic: the
subtraction check before a node's children are evaluated, the division check,
the sign check and the wholeness check at each step of a fold, and the range
and wholeness of the solution after the root. This file states the rules on
their own, as properties of a tree and of the plain values of its nodes, and
shows that checking them on the way changes no value and misses no step:

    evaluate { rules := R, range := ρ } t = .ok v  ↔
      evaluate {} t = .ok v ∧ Keeps R t ∧ v in ρ ∧ (v whole if asked)

`Keeps R t` says that at every node, no child of a subtraction repeats the term
before it (`Repeats`), and every step of the node's fold is kept (`StepKept`):
from the running value `r_{j-1}`, read as the running text, by the plain value
`x_j` of child `c_j`, to `r_j = r_{j-1} op x_j`. The running text is the step
text of the first child at the first step and the text of `r_{j-1}` after.

The proof is one induction over the three functions of the evaluator
(`operand.mutual_induct`), with one lemma for each of their cases:
`foldSteps_cons_eq_ok` and `nodeValue_cons_eq_ok` say what a step and a node
must pass to succeed, for any rules, and `foldSteps_cons_iff_keeps` and
`nodeValue_cons_iff_keeps` put them together with the induction hypotheses.
-/

set_option autoImplicit false

namespace ArithQuiz

/-! ### Computations that may fail -/

/-- A sequenced computation succeeds exactly when each step succeeds in turn. -/
theorem bind_eq_ok_iff {ε α β : Type} {x : Except ε α} {f : α → Except ε β} {b : β} :
    x >>= f = .ok b ↔ ∃ a, x = .ok a ∧ f a = .ok b := by
  cases x with
  | error e => simp [bind, Except.bind]
  | ok a => simp [bind, Except.bind]

/-- A guard that throws when its condition holds lets the computation after it
through exactly when the condition fails. -/
theorem ite_throw_eq_ok {ε β : Type} {p : Prop} [Decidable p] {e : ε} {f : Unit → Except ε β}
    {k : Except ε β} {v : β} :
    (if p then throw e >>= f else k) = .ok v ↔ ¬ p ∧ k = .ok v := by
  by_cases hp : p
  · simp only [hp, if_true, not_true_eq_false, false_and, iff_false]
    exact fun h => nomatch h
  · simp only [hp, if_false, not_false_eq_true, true_and]

namespace Decimal

/-- Being whole is having an integer value. -/
theorem isInteger_iff (d : Decimal) : d.isInteger = true ↔ ∃ n : ℤ, d.toRat = n := by
  rw [isInteger, beq_iff_eq, Rat.den_eq_one_iff]
  constructor
  · intro h
    exact ⟨d.toRat.num, h.symm⟩
  · rintro ⟨n, hn⟩
    rw [hn, Rat.num_intCast]

theorem isNegative_iff (d : Decimal) : d.isNegative = true ↔ d.toRat < 0 := by
  simp [isNegative]

end Decimal

namespace Expr

/-! ### The rules as properties of a tree -/

/-- `n` repeats the term `c` before it in a subtraction: the two read the
same, or `c` is a sum whose last term reads as `n`. -/
def Repeats (c n : Expr) : Prop :=
  c.text = n.text ∨ ∃ s cs l, c = .node s .add cs ∧ cs.getLast? = some l ∧ l.text = n.text

/-- The text a running value is compared by in the division rule: the step
text of the first child while the fold has made no step, the text of the
value after. -/
def runningText (first : Option Expr) (acc : Decimal) : String :=
  match first with
  | some e => operandText e acc
  | none => acc.toText

/-- What the rules ask of one step of a fold: from a running value read as
`accText`, by an operand `c` of value `x`, to the value `r`. -/
structure StepKept (R : Rules) (op : Operator) (accText : String) (c : Expr) (x r : Decimal) :
    Prop where
  /-- A division never divides by an operand that reads as the running value. -/
  notSelfDivision : R.selfDivision = true → op = .div → accText ≠ operandText c x
  /-- The step's value is not negative. -/
  nonNegative : R.negativeResults = true → 0 ≤ r.toRat
  /-- The step's value is whole. -/
  whole : R.decimalResults = true → ∃ n : ℤ, r.toRat = n

/-- The steps of a fold the rules let through: from the running value `acc`,
read as `accText`, each remaining child steps the fold by its plain value, and
after a step the running value is read as its own text. -/
inductive StepsKeep (R : Rules) (op : Operator) : Decimal → String → List Expr → Prop
  /-- No step left. -/
  | nil {acc : Decimal} {accText : String} : StepsKeep R op acc accText []
  /-- A kept step, then the rest of the fold from its value. -/
  | cons {acc : Decimal} {accText : String} {c : Expr} {cs : List Expr} {x r : Decimal} :
      value {} c = .ok x → op.apply acc x = .ok r → StepKept R op accText c x r →
      StepsKeep R op r r.toText cs → StepsKeep R op acc accText (c :: cs)

/-- A tree the rules let through: at each node, no child of a subtraction
repeats the term before it, and every step of the node's fold is kept. -/
inductive Keeps (R : Rules) : Expr → Prop
  /-- A leaf alone is never checked. -/
  | leaf (s : String) : Keeps R (.leaf s)
  /-- A node whose children are kept, whose terms do not cancel, and whose fold
  is kept from the value of its first child. -/
  | node {s : String} {op : Operator} {c : Expr} {cs : List Expr} {x : Decimal} :
      (∀ d ∈ c :: cs, Keeps R d) →
      (R.selfSubtraction = true → op = .sub → (c :: cs).IsChain fun a b => ¬ Repeats a b) →
      value {} c = .ok x → StepsKeep R op x (operandText c x) cs →
      Keeps R (.node s op (c :: cs))

theorem repeatsBefore_iff (c n : Expr) : repeatsBefore c n = true ↔ Repeats c n := by
  rw [repeatsBefore.eq_def, Repeats, Bool.or_eq_true, beq_iff_eq]
  apply or_congr_right
  cases c with
  | leaf t => simp
  | node s op cs =>
      cases op <;> simp [Option.map_eq_some_iff]

/-- The subtraction check finds nothing exactly when no child repeats the term
before it. -/
theorem hasSelfSubtraction_eq_false_iff (cs : List Expr) :
    hasSelfSubtraction cs = false ↔ cs.IsChain fun a b => ¬ Repeats a b := by
  induction cs using hasSelfSubtraction.induct with
  | case1 c n rest ih =>
      rw [hasSelfSubtraction, Bool.or_eq_false_iff, ih, List.isChain_cons_cons,
        Bool.eq_false_iff, ne_eq, repeatsBefore_iff]
  | case2 cs hshort =>
      -- a list of fewer than two children is a chain, and nothing is checked
      match cs, hshort with
      | [], _ => simp [hasSelfSubtraction]
      | [c], _ => simp [hasSelfSubtraction]
      | c :: n :: rest, h => exact absurd rfl (h c n rest)

theorem stepKept_iff {R : Rules} {op : Operator} {accText : String} {c : Expr} {x r : Decimal} :
    StepKept R op accText c x r ↔
      ¬ (R.selfDivision = true ∧ op = .div ∧ accText = operandText c x) ∧
        ¬ (R.negativeResults = true ∧ r.isNegative = true) ∧
        ¬ (R.decimalResults = true ∧ r.isInteger = false) := by
  simp only [not_and, Bool.not_eq_false, Decimal.isNegative_iff, not_lt, Decimal.isInteger_iff]
  exact ⟨fun ⟨h1, h2, h3⟩ => ⟨h1, h2, h3⟩, fun ⟨h1, h2, h3⟩ => ⟨h1, h2, h3⟩⟩

theorem stepsKeep_cons_iff {R : Rules} {op : Operator} {acc : Decimal} {accText : String}
    {c : Expr} {cs : List Expr} :
    StepsKeep R op acc accText (c :: cs) ↔
      ∃ x r, value {} c = .ok x ∧ op.apply acc x = .ok r ∧ StepKept R op accText c x r ∧
        StepsKeep R op r r.toText cs := by
  constructor
  · rintro (_ | ⟨hx, hr, hk, hs⟩)
    exact ⟨_, _, hx, hr, hk, hs⟩
  · rintro ⟨x, r, hx, hr, hk, hs⟩
    exact .cons hx hr hk hs

theorem keeps_node_iff {R : Rules} {s : String} {op : Operator} {c : Expr} {cs : List Expr} :
    Keeps R (.node s op (c :: cs)) ↔
      (∀ d ∈ c :: cs, Keeps R d) ∧
        (R.selfSubtraction = true → op = .sub → (c :: cs).IsChain fun a b => ¬ Repeats a b) ∧
        ∃ x, value {} c = .ok x ∧ StepsKeep R op x (operandText c x) cs := by
  constructor
  · rintro (_ | ⟨hd, hsub, hx, hs⟩)
    exact ⟨hd, hsub, _, hx, hs⟩
  · rintro ⟨hd, hsub, x, hx, hs⟩
    exact .node hd hsub hx hs

/-- A node without children is never kept: it does not evaluate either. -/
theorem not_keeps_nil {R : Rules} {s : String} {op : Operator} : ¬ Keeps R (.node s op []) := by
  rintro ⟨⟩

/-! ### What one step of the evaluator must pass -/

/-- A step of a fold succeeds exactly when the next child evaluates, the
division check passes, the operator applies, the value passes the sign and
wholeness checks, and the rest of the fold succeeds. -/
theorem foldSteps_cons_eq_ok {R : Rules} {s : String} {op : Operator} {acc : Decimal}
    {first : Option Expr} {c : Expr} {cs : List Expr} {v : Decimal} :
    foldSteps R s op acc first (c :: cs) = .ok v ↔
      ∃ x, operand R c = .ok x ∧
        ¬ (R.selfDivision = true ∧ op = .div ∧ runningText first acc = operandText c x) ∧
        ∃ r, op.apply acc x = .ok r ∧
          ¬ (R.negativeResults = true ∧ r.isNegative = true) ∧
          ¬ (R.decimalResults = true ∧ r.isInteger = false) ∧
          foldSteps R s op r none cs = .ok v := by
  -- the division check is two nested guards; as one guard, each check is `ite_throw_eq_ok`
  simp only [foldSteps, bind_eq_ok_iff, ← ite_and]
  simp only [ite_throw_eq_ok, bind_eq_ok_iff, Bool.and_eq_true, beq_iff_eq, Bool.not_eq_true',
    and_assoc]
  rfl

/-- A node with children succeeds exactly when the subtraction check passes,
the first child evaluates, and the fold from its value succeeds. -/
theorem nodeValue_cons_eq_ok {R : Rules} {s : String} {op : Operator} {c : Expr}
    {cs : List Expr} {v : Decimal} :
    nodeValue R s op (c :: cs) = .ok v ↔
      ¬ (R.selfSubtraction = true ∧ op = .sub ∧ hasSelfSubtraction (c :: cs) = true) ∧
        ∃ x, operand R c = .ok x ∧ foldSteps R s op x (some c) cs = .ok v := by
  rw [nodeValue]
  by_cases h : R.selfSubtraction = true ∧ op = .sub ∧ hasSelfSubtraction (c :: cs) = true
  · obtain ⟨h1, rfl, h3⟩ := h
    simp [h1, h3]
  · have hb : (R.selfSubtraction && op == .sub && hasSelfSubtraction (c :: cs)) = false := by
      simpa [and_assoc] using h
    simp only [hb, Bool.false_eq_true, if_false, h, not_false_eq_true, true_and, bind_eq_ok_iff]

/-- The solution checks pass exactly when the value lies in the range, if one
is given, and is whole, if that is asked; they never change the value. -/
theorem checkSolution_eq_ok (c : Constraints) (v w : Decimal) :
    checkSolution c v = .ok w ↔
      v = w ∧ (∀ r, c.range = some r → r.min ≤ v ∧ v ≤ r.max) ∧
        (c.rules.decimalSolution = true → ∃ n : ℤ, v.toRat = n) := by
  have hwhole : (c.rules.decimalSolution = true → ∃ n : ℤ, v.toRat = n) ↔
      (c.rules.decimalSolution && !v.isInteger) = false := by
    rw [← Decimal.isInteger_iff]
    cases c.rules.decimalSolution <;> cases v.isInteger <;> simp
  have hin : ∀ r : Interval Decimal, r.min ≤ v ∧ v ≤ r.max ↔ r.contains v = true := fun r => by
    simp [Interval.contains]
  -- each check is a test of one boolean; split on the booleans
  rw [checkSolution]
  cases c.range with
  | none =>
      simp only [hwhole, reduceCtorEq, false_implies, implies_true, true_and]
      cases (c.rules.decimalSolution && !v.isInteger) <;> simp
  | some r =>
      simp only [hwhole, Option.some.injEq, forall_eq', hin]
      cases r.contains v <;> cases (c.rules.decimalSolution && !v.isInteger) <;> simp

/-- Without rules a step only evaluates the next child and applies the operator. -/
theorem foldSteps_plain_cons_eq_ok {s : String} {op : Operator} {acc : Decimal}
    {first : Option Expr} {c : Expr} {cs : List Expr} {v : Decimal} :
    foldSteps {} s op acc first (c :: cs) = .ok v ↔
      ∃ x, value {} c = .ok x ∧ ∃ r, op.apply acc x = .ok r ∧ foldSteps {} s op r none cs = .ok v := by
  simpa [operand_eq_value] using @foldSteps_cons_eq_ok {} s op acc first c cs v

/-- Without rules a node with children only evaluates its first child and folds. -/
theorem nodeValue_plain_cons_eq_ok {s : String} {op : Operator} {c : Expr} {cs : List Expr}
    {v : Decimal} :
    nodeValue {} s op (c :: cs) = .ok v ↔
      ∃ x, value {} c = .ok x ∧ foldSteps {} s op x (some c) cs = .ok v := by
  simpa [operand_eq_value] using @nodeValue_cons_eq_ok {} s op c cs v

/-! ### The induction, case by case -/

section Cases

variable {R : Rules} {s : String} {op : Operator} {c : Expr} {cs : List Expr}

/-- A step of a fold: when the next child, and the rest of the fold from any
value, pass the rules exactly when they evaluate plainly and are kept, so does
the step. -/
theorem foldSteps_cons_iff_keeps {acc : Decimal} {first : Option Expr}
    (hc : ∀ x, operand R c = .ok x ↔ operand {} c = .ok x ∧ Keeps R c)
    (hcs : ∀ r v, foldSteps R s op r none cs = .ok v ↔
      foldSteps {} s op r none cs = .ok v ∧ (∀ d ∈ cs, Keeps R d) ∧ StepsKeep R op r r.toText cs)
    (v : Decimal) :
    foldSteps R s op acc first (c :: cs) = .ok v ↔
      foldSteps {} s op acc first (c :: cs) = .ok v ∧ (∀ d ∈ c :: cs, Keeps R d) ∧
        StepsKeep R op acc (runningText first acc) (c :: cs) := by
  rw [foldSteps_cons_eq_ok, foldSteps_plain_cons_eq_ok, stepsKeep_cons_iff, List.forall_mem_cons]
  simp only [hc, hcs, stepKept_iff]
  rw [operand_eq_value]
  constructor
  · rintro ⟨x, ⟨hx, hk⟩, hg, r, ha, hn, hd, hf, hks, hs⟩
    exact ⟨⟨x, hx, r, ha, hf⟩, ⟨hk, hks⟩, x, r, hx, ha, ⟨hg, hn, hd⟩, hs⟩
  · rintro ⟨⟨x, hx, r, ha, hf⟩, ⟨hk, hks⟩, x', r', hx', ha', ⟨hg, hn, hd⟩, hs⟩
    -- the plain value of the child and the step's value are the ones the fold took
    obtain rfl : x = x' := Except.ok.inj (hx.symm.trans hx')
    obtain rfl : r = r' := Except.ok.inj (ha.symm.trans ha')
    exact ⟨x, ⟨hx, hk⟩, hg, r, ha, hn, hd, hf, hks, hs⟩

/-- A subtraction whose terms cancel fails under the rules, and is not kept. -/
theorem nodeValue_iff_keeps_of_cancels
    (h : (R.selfSubtraction && op == .sub && hasSelfSubtraction (c :: cs)) = true) (v : Decimal) :
    nodeValue R s op (c :: cs) = .ok v ↔
      nodeValue {} s op (c :: cs) = .ok v ∧ Keeps R (.node s op (c :: cs)) := by
  simp only [Bool.and_eq_true, beq_iff_eq] at h
  obtain ⟨⟨hsub, rfl⟩, hcancel⟩ := h
  have hbad : ¬ Keeps R (.node s .sub (c :: cs)) := fun hk => by
    have hchain := (keeps_node_iff.1 hk).2.1 hsub rfl
    rw [← hasSelfSubtraction_eq_false_iff, hcancel] at hchain
    exact Bool.noConfusion hchain
  simp only [nodeValue_cons_eq_ok, hsub, hcancel, hbad]
  simp

/-- A node whose terms do not cancel: when its first child and its fold pass
the rules exactly when they evaluate plainly and are kept, so does the node. -/
theorem nodeValue_cons_iff_keeps
    (h : ¬ (R.selfSubtraction && op == .sub && hasSelfSubtraction (c :: cs)) = true)
    (hc : ∀ x, operand R c = .ok x ↔ operand {} c = .ok x ∧ Keeps R c)
    (hcs : ∀ x v, foldSteps R s op x (some c) cs = .ok v ↔
      foldSteps {} s op x (some c) cs = .ok v ∧ (∀ d ∈ cs, Keeps R d) ∧
        StepsKeep R op x (operandText c x) cs)
    (v : Decimal) :
    nodeValue R s op (c :: cs) = .ok v ↔
      nodeValue {} s op (c :: cs) = .ok v ∧ Keeps R (.node s op (c :: cs)) := by
  -- the subtraction check passed, so no child repeats the term before it
  have hchain : R.selfSubtraction = true → op = .sub →
      (c :: cs).IsChain fun a b => ¬ Repeats a b := by
    rintro hsub rfl
    rw [← hasSelfSubtraction_eq_false_iff]
    simpa [hsub] using h
  have hpass : ¬ (R.selfSubtraction = true ∧ op = .sub ∧ hasSelfSubtraction (c :: cs) = true) := by
    simpa [and_assoc] using h
  rw [nodeValue_cons_eq_ok, nodeValue_plain_cons_eq_ok, keeps_node_iff, List.forall_mem_cons]
  simp only [hpass, not_false_eq_true, true_and, hc, hcs]
  rw [operand_eq_value]
  constructor
  · rintro ⟨x, ⟨hx, hk⟩, hf, hks, hs⟩
    exact ⟨⟨x, hx, hf⟩, ⟨hk, hks⟩, hchain, x, hx, hs⟩
  · rintro ⟨⟨x, hx, hf⟩, ⟨hk, hks⟩, -, x', hx', hs⟩
    obtain rfl : x = x' := Except.ok.inj (hx.symm.trans hx')
    exact ⟨x, ⟨hx, hk⟩, hf, hks, hs⟩

end Cases

/-- The evaluator under rules succeeds exactly on the trees the rules keep,
with the plain value. -/
theorem operand_eq_ok_iff_keeps (R : Rules) (e : Expr) (v : Decimal) :
    operand R e = .ok v ↔ operand {} e = .ok v ∧ Keeps R e := by
  -- one induction over the three functions of the evaluator, a node's fold
  -- carrying the running text it starts from
  refine (operand.mutual_induct R
    (fun e => ∀ v, operand R e = .ok v ↔ operand {} e = .ok v ∧ Keeps R e)
    (fun s op cs => ∀ v, nodeValue R s op cs = .ok v ↔
      nodeValue {} s op cs = .ok v ∧ Keeps R (.node s op cs))
    (fun s op acc first cs => ∀ v, foldSteps R s op acc first cs = .ok v ↔
      foldSteps {} s op acc first cs = .ok v ∧ (∀ d ∈ cs, Keeps R d) ∧
        StepsKeep R op acc (runningText first acc) cs)
    ?leaf ?node ?empty ?cancels ?children ?done ?step).1 e v
  case leaf =>
    intro t v
    exact ⟨fun h => ⟨h, .leaf t⟩, fun h => h.1⟩
  case node =>
    intro s op cs ih
    exact ih
  case empty =>
    intro s op v
    simp [nodeValue, not_keeps_nil]
  case cancels =>
    intro s op c cs h v
    exact nodeValue_iff_keeps_of_cancels h v
  case children =>
    intro s op c cs h hc hcs v
    exact nodeValue_cons_iff_keeps h hc hcs v
  case done =>
    intro s op acc first v
    simp [foldSteps, StepsKeep.nil]
  case step =>
    intro s op acc first c cs hc hcs v
    exact foldSteps_cons_iff_keeps hc hcs v

theorem value_eq_ok_iff_keeps (R : Rules) (t : Expr) (v : Decimal) :
    value R t = .ok v ↔ value {} t = .ok v ∧ Keeps R t := by
  rw [← operand_eq_value, ← operand_eq_value]
  exact operand_eq_ok_iff_keeps R t v

/-- Evaluating with rules and a range gives the plain value of the tree,
exactly when the rules keep the tree, the value lies in the range and, where
asked, is whole. The checks on the way change no value and miss no step. -/
theorem evaluate_eq_ok_iff_keeps (R : Rules) (ρ : Option (Interval Decimal)) (t : Expr)
    (v : Decimal) :
    evaluate { rules := R, range := ρ } t = .ok v ↔
      evaluate {} t = .ok v ∧ Keeps R t ∧
        (∀ r, ρ = some r → r.min ≤ v ∧ v ≤ r.max) ∧
        (R.decimalSolution = true → ∃ n : ℤ, v.toRat = n) := by
  rw [evaluate, bind_eq_ok_iff, evaluate_plain]
  simp only [checkSolution_eq_ok]
  constructor
  · rintro ⟨a, ha, rfl, hr, hw⟩
    obtain ⟨hp, hk⟩ := (value_eq_ok_iff_keeps R t a).1 ha
    exact ⟨hp, hk, hr, hw⟩
  · rintro ⟨hp, hk, hr, hw⟩
    exact ⟨v, (value_eq_ok_iff_keeps R t v).2 ⟨hp, hk⟩, rfl, hr, hw⟩

end Expr

end ArithQuiz
