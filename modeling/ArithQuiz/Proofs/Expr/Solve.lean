import Mathlib.Data.List.Forall2
import ArithQuiz.Proofs.Expr.Grammar

/-!
# `ArithQuiz.Proofs.Expr.Solve`: what a text solves to

Without rules and without a range, solving a text succeeds exactly on the
sentences of the tier grammar whose exact value exists, and gives that value:

    solve {} s = .ok v  ↔  ∃ t, Derives (some .sub) e t ∧ ratValue? t = some v.toRat

where `e` is the text before the first `=`. Every such sentence is built into
its one parse tree (`solve_eq_ok_iff_derives`).

The two halves:

* `value_toOption_of_derives`: on a parse tree, plain evaluation is the exact
  fold. Leaves are numerals, read to their value (`ofChars?_of_numeral`), and
  each step of a node's fold is the operator over the rationals, a zero divisor
  failing on both sides.
* `derives_of_buildAt`: a text that is built into a tree that evaluates is a
  sentence, with that tree. The induction follows the builder's own recursion.
  A leaf that evaluates holds no operator, so no minus sign, and reads as a
  number, so it is a numeral (`numeral_of_ofChars?`). A cut is a chain of its
  parts (`intercalate_splitTier`), and a stripped text is an atom in
  parentheses.

Completeness, `buildAt_of_derives`, is in `ArithQuiz.Proofs.Expr.Grammar`.
-/

set_option autoImplicit false

namespace ArithQuiz.Expr

open ArithQuiz.Decimal (Numeral numeralValue)

/-! ### Plain evaluation, step by step -/

theorem operand_eq_value (R : Rules) (e : Expr) : operand R e = value R e := by
  cases e <;> rfl

/-- Without rules a node is its first child's value folded over the rest. -/
theorem nodeValue_plain_cons (s : String) (op : Operator) (c : Expr) (cs : List Expr) :
    nodeValue {} s op (c :: cs) = (value {} c).bind fun v => foldSteps {} s op v (some c) cs := by
  simp [nodeValue, operand_eq_value]
  rfl

/-- Without rules a step evaluates the next child and applies the operator. -/
theorem foldSteps_plain_cons (s : String) (op : Operator) (acc : Decimal) (first : Option Expr)
    (c : Expr) (cs : List Expr) :
    foldSteps {} s op acc first (c :: cs) =
      (value {} c).bind fun v => (op.apply acc v).bind fun r => foldSteps {} s op r none cs := by
  simp [foldSteps, operand_eq_value]
  rfl

theorem toOption_bind {ε α β : Type} (x : Except ε α) (f : α → Except ε β) :
    (x.bind f).toOption = x.toOption.bind fun a => (f a).toOption := by
  cases x <;> rfl

/-- An operator step over decimals is the step over their exact values. -/
theorem exact_toRat (op : Operator) (a b : Decimal) :
    op.exact a.toRat b.toRat = (op.apply a b).toOption.map Decimal.toRat := by
  cases op with
  | div =>
      simp only [Operator.exact, Operator.apply, Decimal.div?_eq]
      split <;> rfl
  | _ => rfl

/-! ### A parse tree evaluates to its exact value -/

/-- A fold whose children each evaluate to their exact value evaluates to the
exact fold. -/
theorem foldSteps_plain_toOption (s : String) (op : Operator) :
    ∀ (cs : List Expr) (acc : Decimal) (first : Option Expr),
      (∀ c ∈ cs, (value {} c).toOption.map Decimal.toRat = ratValue? c) →
        (foldSteps {} s op acc first cs).toOption.map Decimal.toRat = foldExact op acc.toRat cs
  | [], acc, first, _ => by simp [foldSteps, foldExact, Except.toOption]
  | c :: cs, acc, first, h => by
      have hc := h c (by simp)
      have ih : ∀ r : Decimal, (foldSteps {} s op r none cs).toOption.map Decimal.toRat =
          foldExact op r.toRat cs :=
        fun r => foldSteps_plain_toOption s op cs r none fun d hd => h d (List.mem_cons_of_mem _ hd)
      rw [foldSteps_plain_cons, foldExact, ← hc, toOption_bind]
      simp only [Option.map_bind, Option.bind_map, Function.comp_def, toOption_bind, exact_toRat, ih]

/-- On a parse tree, plain evaluation is the exact fold: it succeeds exactly
when the fold divides by no zero, with the fold's value. -/
theorem value_toOption_of_derives {lvl : Option Operator} {cs : List Char} {t : Expr}
    (h : Derives lvl cs t) : (value {} t).toOption.map Decimal.toRat = ratValue? t := by
  induction h with
  | @numeral cs hn =>
      simp [value, Decimal.parse, Decimal.ofText?, Decimal.ofChars?_of_numeral hn, Except.toOption,
        ratValue?]
  | paren _ _ ih => exact ih
  | single _ ih => exact ih
  | @chain op items htwo _ ih =>
      have hne : items ≠ [] := List.ne_nil_of_length_pos (by omega)
      obtain ⟨x, rest, rfl⟩ := List.exists_cons_of_ne_nil hne
      have hx := ih x (by simp)
      simp only [List.map_cons, value, ratValue?]
      rw [nodeValue_plain_cons, ← hx, toOption_bind]
      simp only [Option.map_bind, Option.bind_map, Function.comp_def]
      congr 1
      funext v
      exact foldSteps_plain_toOption _ op _ v _ fun c hc => by
        obtain ⟨y, hy, rfl⟩ := List.mem_map.1 hc
        exact ih y (List.mem_cons_of_mem _ hy)

/-! ### A built tree that evaluates is a parse tree -/

/-- Each child of a fold that succeeds has a value. -/
theorem exists_value_of_foldSteps (s : String) (op : Operator) :
    ∀ (cs : List Expr) (acc : Decimal) (first : Option Expr) (d : Decimal),
      foldSteps {} s op acc first cs = .ok d → ∀ c ∈ cs, ∃ v, value {} c = .ok v
  | [], _, _, _, _, _, hc => absurd hc List.not_mem_nil
  | c :: cs, acc, first, d, h, c', hc' => by
      rw [foldSteps_plain_cons] at h
      cases hv : value {} c with
      | error e => simp [hv, Except.bind] at h
      | ok v =>
          rcases List.mem_cons.1 hc' with rfl | hmem
          · exact ⟨v, hv⟩
          · cases ha : op.apply acc v with
            | error e => simp [hv, ha, Except.bind] at h
            | ok r =>
                simp only [hv, ha, Except.bind] at h
                exact exists_value_of_foldSteps s op cs r none d h c' hmem

/-- Each child of a node that evaluates has a value. -/
theorem exists_value_of_mem {s : String} {op : Operator} {cs : List Expr} {d : Decimal}
    (h : value {} (.node s op cs) = .ok d) : ∀ c ∈ cs, ∃ v, value {} c = .ok v := by
  cases cs with
  | nil => simp [value, nodeValue] at h
  | cons c rest =>
      change nodeValue {} s op (c :: rest) = .ok d at h
      rw [nodeValue_plain_cons] at h
      cases hv : value {} c with
      | error e => rw [hv] at h; cases h
      | ok v =>
          rw [hv] at h
          intro c' hc'
          rcases List.mem_cons.1 hc' with rfl | hmem
          · exact ⟨v, hv⟩
          · exact exists_value_of_foldSteps s op rest v (some c) d h c' hmem

/-- A successful `mapM` pairs each input with its output. -/
theorem forall₂_of_mapM_eq_ok {ε α β : Type} {f : α → Except ε β} :
    ∀ {xs : List α} {ys : List β}, xs.mapM f = .ok ys → List.Forall₂ (fun x y => f x = .ok y) xs ys
  | [], ys, h => by
      simp only [List.mapM_nil] at h
      cases h
      exact .nil
  | x :: xs, ys, h => by
      rw [List.mapM_cons] at h
      cases hx : f x with
      | error e => rw [hx] at h; cases h
      | ok y =>
          cases hxs : xs.mapM f with
          | error e => rw [hx, hxs] at h; cases h
          | ok ys' =>
              rw [hx, hxs] at h
              cases h
              exact .cons hx (forall₂_of_mapM_eq_ok hxs)

/-- A leaf that evaluates is a numeral: it holds no operator, so no sign, and it
reads as a number. -/
theorem numeral_of_leaf {cs : List Char} (hop : hasOperator cs = false) {d : Decimal}
    (h : value {} (.leaf (String.ofList cs)) = .ok d) : Numeral cs := by
  have hread : Decimal.ofChars? cs = some d := by
    simp only [value, Decimal.parse, Decimal.ofText?, String.toList_ofList] at h
    split at h
    · rename_i d' hd
      cases h
      exact hd
    · simp at h
  have hsign : ∀ rest, cs ≠ '-' :: rest := by
    rintro rest rfl
    have : hasOperator ('-' :: rest) = true := hasOperator_iff.2 ⟨.sub, List.mem_cons_self⟩
    simp [this] at hop
  exact (Decimal.numeral_of_ofChars? hsign hread).1

/-- A text built, at some tier, into a tree that evaluates is a sentence of
that tier, and the tree is its parse tree. -/
theorem derives_of_buildAt (cs : List Char) (tier : Option Operator) :
    ∀ t, buildAt cs tier = .ok t → (∃ d, value {} t = .ok d) → Derives tier cs t := by
  refine buildAt_ok_induct (fun cs tier t => (∃ d, value {} t = .ok d) → Derives tier cs t)
    ?leaf ?strip ?pass ?cut cs tier
  case leaf =>
    intro cs tier hop hv
    obtain ⟨d, hd⟩ := hv
    exact (Derives.numeral (numeral_of_leaf hop hd)).lift tier
  case strip =>
    -- stripped parentheses: the inside is a sentence with an operator
    intro cs inner t hop hs ih hv
    obtain rfl := stripParens?_eq_some_iff.1 hs
    obtain ⟨op, hmem⟩ := hasOperator_iff.1 hop
    have hin : op.symbol ∈ inner := by
      have hopen : op.symbol ≠ '(' := by cases op <;> decide
      have hclose : op.symbol ≠ ')' := by cases op <;> decide
      simpa [hopen, hclose] using hmem
    exact .paren (ih hv) ⟨op, hin⟩
  case pass =>
    intro cs op t _ _ ih hv
    exact .single (ih hv)
  case cut =>
    intro cs op ts hop hcut hm ih hv
    obtain ⟨d, hd⟩ := hv
    have h2 := forall₂_of_mapM_eq_ok hm
    have hlen := h2.length_eq
    -- the parts with their trees are the operands of a chain
    have hitems : ∀ x ∈ (splitTier op.symbol cs).zip ts, Derives op.next x.1 x.2 := by
      rintro ⟨p, c⟩ hx
      exact ih p (List.of_mem_zip hx).1 c (List.forall₂_iff_zip.1 h2 |>.2 hx)
        (exists_value_of_mem hd c (List.of_mem_zip hx).2)
    have hfst : ((splitTier op.symbol cs).zip ts).map Prod.fst = splitTier op.symbol cs :=
      List.map_fst_zip hlen.le
    have hsnd : ((splitTier op.symbol cs).zip ts).map Prod.snd = ts := List.map_snd_zip hlen.ge
    have hcs : [op.symbol].intercalate (splitTier op.symbol cs) = cs :=
      intercalate_splitTier _ fun h => by simp [h, hasOperator] at hop
    have hchain := Derives.chain ((splitTier op.symbol cs).zip ts)
      (by simpa [List.length_zip, hlen, hasCut_iff] using hcut) hitems
    rw [hfst, hsnd, hcs] at hchain
    exact hchain

/-! ### Solving a text -/

/-- A digit is not blank. -/
theorem isBlank_of_isDigit {c : Char} (h : c.isDigit = true) : Text.isBlank c = false := by
  simp only [Char.isDigit, Bool.and_eq_true, decide_eq_true_eq] at h
  have h1 : 48 ≤ c.toNat := h.1
  have h2 : c.toNat ≤ 57 := h.2
  have h3 : c.toNat < 0x80 := by omega
  simp [Text.isBlank, h3]
  omega

/-- Every sentence holds a digit. -/
theorem Derives.exists_digit {lvl : Option Operator} {cs : List Char} {t : Expr}
    (h : Derives lvl cs t) : ∃ c ∈ cs, c.isDigit = true := by
  induction h with
  | numeral hn =>
      cases hn with
      | whole hi =>
          obtain ⟨c, rest, rfl⟩ := List.exists_cons_of_ne_nil hi.1
          exact ⟨c, List.mem_cons_self, hi.2 c List.mem_cons_self⟩
      | point hi _ =>
          obtain ⟨c, rest, rfl⟩ := List.exists_cons_of_ne_nil hi.1
          exact ⟨c, by simp, hi.2 c List.mem_cons_self⟩
  | paren _ _ ih =>
      obtain ⟨c, hc, hd⟩ := ih
      exact ⟨c, by simp [hc], hd⟩
  | single _ ih => exact ih
  | @chain op items htwo _ ih =>
      have hne : items ≠ [] := List.ne_nil_of_length_pos (by omega)
      obtain ⟨x, rest, rfl⟩ := List.exists_cons_of_ne_nil hne
      obtain ⟨c, hc, hd⟩ := ih x List.mem_cons_self
      refine ⟨c, ?_, hd⟩
      cases rest with
      | nil => simpa using hc
      | cons y rest => simp [List.intercalate_cons_cons, hc]

/-- An expression is built into its parse tree: a sentence is never blank. -/
theorem buildChars_of_derives {cs : List Char} {t : Expr} (h : Derives (some .sub) cs t) :
    buildChars cs = .ok t := by
  obtain ⟨c, hc, hd⟩ := h.exists_digit
  have hblank : cs.all Text.isBlank = false :=
    List.all_eq_false.2 ⟨c, hc, by simp [isBlank_of_isDigit hd]⟩
  rw [buildChars, hblank]
  exact buildAt_of_derives h

/-- A left side built into a tree that evaluates is a sentence, with that
tree. -/
theorem derives_of_buildEquation {s : String} {t : Expr} (hb : buildEquation s = .ok t)
    (hv : ∃ d, value {} t = .ok d) : Derives (some .sub) (equationLeft s) t := by
  unfold buildEquation buildChars at hb
  split at hb
  · cases hb
  · exact derives_of_buildAt _ _ t hb hv

/-- Without rules or range, evaluating is computing the value. -/
theorem evaluate_plain (t : Expr) : evaluate {} t = value {} t := by
  unfold evaluate checkSolution
  cases value {} t <;> rfl

/-- Without rules or range, a text solves exactly when the part before its
first `=` is a sentence of the tier grammar whose exact value exists; the
solution is that value. Every sentence is built into its parse tree, which is
therefore the only one. -/
theorem solve_eq_ok_iff_sentence :
    (∀ (s : String) (v : Decimal), solve {} s = .ok v ↔
      ∃ t, Derives (some .sub) (s.toList.takeWhile (· ≠ '=')) t ∧ ratValue? t = some v.toRat) ∧
    (∀ (e : List Char) (t : Expr), Derives (some .sub) e t → build (String.ofList e) = .ok t) ∧
    (∀ (e : List Char) (t t' : Expr), Derives (some .sub) e t → Derives (some .sub) e t' →
      t = t') := by
  refine ⟨fun s v => ⟨fun h => ?_, fun ⟨t, hd, hx⟩ => ?_⟩, fun e t hd => ?_, fun e t t' hd hd' => ?_⟩
  · -- a solution comes from a built tree that evaluates
    cases hb : buildEquation s with
    | error e => rw [solve, hb] at h; cases h
    | ok t =>
        rw [solve, hb] at h
        change evaluate {} t = .ok v at h
        rw [evaluate_plain] at h
        have hd := derives_of_buildEquation hb ⟨v, h⟩
        refine ⟨t, hd, ?_⟩
        rw [← value_toOption_of_derives hd, h]
        rfl
  · -- a sentence with an exact value is built and evaluated to it
    have hv := value_toOption_of_derives hd
    rw [hx] at hv
    cases hval : value {} t with
    | error e => rw [hval] at hv; cases hv
    | ok d =>
        rw [hval] at hv
        have hdv : d = v := by
          cases d; cases v
          simpa [Except.toOption] using hv
        subst hdv
        simp only [solve, buildEquation, equationLeft, buildChars_of_derives hd]
        change evaluate {} t = .ok d
        rw [evaluate_plain, hval]
  · rw [build, String.toList_ofList]
    exact buildChars_of_derives hd
  · have h1 := buildChars_of_derives hd
    rw [buildChars_of_derives hd'] at h1
    cases h1
    rfl

theorem sentence_seven_builds :
    Derives (some .sub) ['7'] (.leaf (String.ofList ['7'])) ∧
      build (String.ofList ['7']) = .ok (.leaf (String.ofList ['7'])) := by
  have hd : Derives (some .sub) ['7'] (.leaf (String.ofList ['7'])) :=
    (Derives.numeral (.whole ⟨List.cons_ne_nil _ _, fun c hc => by
      rw [List.mem_singleton.1 hc]
      decide⟩)).lift (some .sub)
  exact ⟨hd, solve_eq_ok_iff_sentence.2.1 ['7'] _ hd⟩

end ArithQuiz.Expr
