import Mathlib
import ArithQuiz.Proofs.Expr.Rules
import ArithQuiz.Proofs.Decimal.Canonical

/-!
# `ArithQuiz.Proofs.Expr.SelfDivision`: the division rule compares rounded values

The division rule is meant as "never divide a value by itself", but it
compares texts: the running text (a leaf's own text before the first step,
the canonical text of the running value after a step) with the divisor's text
(a leaf's own text, or the canonical text of a subtree's value). When every
leaf is written canonically, as the value forms of token substitution with
non-negative values are, each text compared is the canonical text of its
value, and two canonical texts are equal exactly when the values round alike
at `fractionDigits` places (`Decimal.toText_eq_iff_rounded_eq`).

* `operandText_of_canonical`: an operand with canonical leaves is compared by
  the text of its value;
* `runningText_of_canonical`: so is the running value, at every step of a
  fold over such operands.

The main statement is `foldSteps_div_of_canonical`: every step of a division
fold over operands with canonical leaves is the step that compares rounded
values in place of texts; values with at most `fractionDigits` places are
compared exactly.
-/

set_option autoImplicit false

namespace ArithQuiz.Expr

/-- A text is canonical when it reads as a value written as the text itself. -/
def CanonicalText (t : String) : Prop := ∃ d, Decimal.parse t = .ok d ∧ d.toText = t

/-- Every leaf of a tree is written canonically. -/
inductive LeavesCanonical : Expr → Prop
  /-- A leaf with a canonical text. -/
  | leaf {t : String} : CanonicalText t → LeavesCanonical (.leaf t)
  /-- A node whose children have canonical leaves. -/
  | node {t : String} {op : Operator} {cs : List Expr} :
      (∀ c ∈ cs, LeavesCanonical c) → LeavesCanonical (.node t op cs)

/-- The text of every decimal is canonical: it reads back as the rounded
value, which is written the same way. -/
theorem canonicalText_toText (d : Decimal) : CanonicalText d.toText :=
  ⟨⟨d.rounded⟩, Decimal.parse_toText d,
    (Decimal.toText_eq_iff_rounded_eq _ _).2 (Decimal.rounded_rounded d)⟩

/-- An operand with canonical leaves is compared by the text of its value:
a leaf's text is the text of what it reads as, and a subtree is compared by
the text of its value anyway. -/
theorem operandText_of_canonical {R : Rules} {e : Expr} (he : e.LeavesCanonical) {x : Decimal}
    (hx : operand R e = .ok x) : operandText e x = x.toText := by
  cases he with
  | leaf ht =>
      obtain ⟨d, hd, htext⟩ := ht
      rw [operand, hd] at hx
      cases hx
      exact htext.symm
  | node => rfl

/-- The running text of a fold over operands with canonical leaves is the text
of the running value: before the first step it is the first operand's text,
and after a step the text of the value. -/
theorem runningText_of_canonical {R : Rules} {first : Option Expr} {acc : Decimal}
    (hfirst : ∀ e, first = some e → e.LeavesCanonical ∧ operand R e = .ok acc) :
    runningText first acc = acc.toText := by
  cases first with
  | none => rfl
  | some e =>
      obtain ⟨he, hacc⟩ := hfirst e rfl
      exact operandText_of_canonical he hacc

/-- Every step of a division fold over operands with canonical leaves, with
the division rule on, is the step that rejects the divisor exactly when it and
the running value round to one value at `fractionDigits` places. Values with
at most `fractionDigits` places are rejected exactly when equal. The running
value is canonical when the fold starts from its first operand (`first`) and
after every step (`none`), so this covers each step of every division node of
a tree with canonical leaves. -/
theorem foldSteps_div_of_canonical {R : Rules} (hR : R.selfDivision = true) (s : String)
    {acc : Decimal} {first : Option Expr}
    (hfirst : ∀ e, first = some e → e.LeavesCanonical ∧ operand R e = .ok acc)
    {c : Expr} (hc : c.LeavesCanonical) (cs : List Expr) :
    foldSteps R s .div acc first (c :: cs) = (do
      let x ← operand R c
      if acc.rounded = x.rounded then throw (.selfDivision s acc.toText x.toText)
      let r ← Operator.div.apply acc x
      if R.negativeResults && r.isNegative then throw (.negativeResult s r)
      if R.decimalResults && !r.isInteger then throw (.decimalResult s r)
      foldSteps R s .div r none cs) ∧
    ∀ x, operand R c = .ok x → acc.toRat.den ∣ 10 ^ Decimal.fractionDigits →
      x.toRat.den ∣ 10 ^ Decimal.fractionDigits → (acc.rounded = x.rounded ↔ acc = x) := by
  refine ⟨?_, fun x _ hacc hx => ?_⟩
  · cases hx : operand R c with
    | error e => simp only [foldSteps, hx]; rfl
    | ok x =>
        -- both texts compared are the canonical texts of the values
        have hvt := operandText_of_canonical hc hx
        have hrt := runningText_of_canonical hfirst
        have hcmp := Decimal.toText_eq_iff_rounded_eq acc x
        cases first with
        | none =>
            simp only [foldSteps, hx, bind, Except.bind, hR, Bool.true_and, beq_self_eq_true, if_true,
              hvt, beq_iff_eq, hcmp]
        | some e =>
            have hrt' : operandText e acc = acc.toText := hrt
            simp only [foldSteps, hx, bind, Except.bind, hR, Bool.true_and, beq_self_eq_true, if_true,
              hrt', hvt, beq_iff_eq, hcmp]
  · -- such values are their own roundings
    rw [← Decimal.rounded_eq_self_iff] at hacc hx
    rw [hacc, hx]
    constructor
    · intro h
      cases acc
      cases x
      exact congrArg Decimal.mk h
    · rintro rfl
      rfl

/-- The division step of `(2*2)/4`: the first operand is a product compared by
the text of its value `4`, the same text as the divisor's. -/
theorem foldSteps_div_doubled_two :
    ({ selfDivision := true } : Rules).selfDivision = true ∧
      (∀ e, some (node "2*2" .mul [leaf "2", leaf "2"]) = some e →
        e.LeavesCanonical ∧ operand { selfDivision := true } e = .ok ⟨4⟩) ∧
      (leaf "4").LeavesCanonical ∧
      (foldSteps { selfDivision := true } "(2*2)/4" .div ⟨4⟩
          (some (node "2*2" .mul [leaf "2", leaf "2"])) [leaf "4"] = (do
        let x ← operand { selfDivision := true } (leaf "4")
        if (⟨4⟩ : Decimal).rounded = x.rounded then
          throw (.selfDivision "(2*2)/4" (⟨4⟩ : Decimal).toText x.toText)
        let r ← Operator.div.apply ⟨4⟩ x
        if ({ selfDivision := true } : Rules).negativeResults && r.isNegative then
          throw (.negativeResult "(2*2)/4" r)
        if ({ selfDivision := true } : Rules).decimalResults && !r.isInteger then
          throw (.decimalResult "(2*2)/4" r)
        foldSteps { selfDivision := true } "(2*2)/4" .div r none []) ∧
      ∀ x, operand { selfDivision := true } (leaf "4") = .ok x →
        (⟨4⟩ : Decimal).toRat.den ∣ 10 ^ Decimal.fractionDigits →
        x.toRat.den ∣ 10 ^ Decimal.fractionDigits → ((⟨4⟩ : Decimal).rounded = x.rounded ↔ ⟨4⟩ = x)) := by
  have htwo : CanonicalText "2" := ⟨⟨2⟩, by cbv, by cbv⟩
  have hfour : CanonicalText "4" := ⟨⟨4⟩, by cbv, by cbv⟩
  have hfirst : ∀ e, some (node "2*2" .mul [leaf "2", leaf "2"]) = some e →
      e.LeavesCanonical ∧ operand { selfDivision := true } e = .ok ⟨4⟩ := by
    rintro e ⟨⟩
    refine ⟨.node fun c hc => ?_, by cbv⟩
    rcases List.mem_pair.1 hc with rfl | rfl <;> exact .leaf htwo
  exact ⟨rfl, hfirst, .leaf hfour,
    foldSteps_div_of_canonical rfl "(2*2)/4" hfirst (.leaf hfour) []⟩

end ArithQuiz.Expr
