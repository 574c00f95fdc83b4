import ArithQuiz.Proofs.Expr.Rules

/-!
# `ArithQuiz.Proofs.Expr.Built`: the shape of a built tree

Whatever the text, a tree the builder returns `Branching`: every node has two
children or more, and each child holds a shorter text than its parent. The
root holds the text itself, less the pairs of enclosing parentheses the
builder stripped before it found a tier to cut.

The evaluator has one error for a tree it cannot read, `malformed`, given by a
node without children. A built tree has no such node, so evaluating it never
gives that error, whatever the rules and the range, and a text that fails to
solve as malformed failed to build.

* `buildAt_text`: the root's text is the text with `k` enclosing pairs
  stripped, by induction over a successful build (`buildAt_ok_induct`);
* `branching_of_buildAt`: a node's children are built from the parts of a cut,
  each shorter than the text, and hold at most their part's text;
* `operand_ne_malformed`: one induction over the evaluator's three functions;
  the steps of a fold and the checks of a node fail in other ways
  (`foldSteps_cons_eq_malformed`, `nodeValue_cons_eq_malformed`).

The main statement is `build_ok_branching`.
-/

set_option autoImplicit false

namespace ArithQuiz

/-! ### Computations that fail -/

/-- A sequenced computation fails when its first step fails, or when the first
step succeeds and the rest fails. -/
theorem bind_eq_error_iff {ε α β : Type} {x : Except ε α} {f : α → Except ε β} {e : ε} :
    x >>= f = .error e ↔ x = .error e ∨ ∃ a, x = .ok a ∧ f a = .error e := by
  cases x with
  | error e' => simp [bind, Except.bind]
  | ok a => simp [bind, Except.bind]

/-- A guard that throws fails with its own error when its condition holds, and
as the computation after it otherwise. -/
theorem ite_throw_eq_error {ε β : Type} {p : Prop} [Decidable p] {e e' : ε}
    {f : Unit → Except ε β} {k : Except ε β} :
    (if p then throw e' >>= f else k) = .error e ↔ (p ∧ e' = e) ∨ (¬ p ∧ k = .error e) := by
  by_cases hp : p
  · simp [hp, throw, throwThe, MonadExceptOf.throw, bind, Except.bind]
  · simp [hp]

/-- An operator step fails only on a zero divisor. -/
theorem Operator.apply_eq_error {op : Operator} {a b : Decimal} {e : ExprError}
    (h : op.apply a b = .error e) : e = .divisionByZero := by
  cases op with
  | div =>
      simp only [Operator.apply] at h
      split at h
      · cases h
      · exact (Except.error.inj h).symm
  | _ => cases h

/-- Reading a number fails only as an invalid number. -/
theorem Decimal.parse_ne_malformed (s x : String) : Decimal.parse s ≠ .error (.malformed x) := by
  unfold Decimal.parse
  split <;> simp

namespace Expr

/-- Every node of the tree has two children or more, and each child's text is
shorter than its parent's. -/
inductive Branching : Expr → Prop
  /-- A leaf. -/
  | leaf (s : String) : Branching (.leaf s)
  /-- A node of two children or more, each branching and shorter. -/
  | node {s : String} {op : Operator} {cs : List Expr} : 2 ≤ cs.length →
      (∀ c ∈ cs, c.text.length < s.length) → (∀ c ∈ cs, Branching c) →
      Branching (.node s op cs)

/-! ### What the builder returns -/

/-- Each output of a successful `mapM` comes from one of its inputs. -/
theorem exists_mem_of_mapM_eq_ok {ε α β : Type} {f : α → Except ε β} {xs : List α} {ys : List β}
    (h : xs.mapM f = .ok ys) {y : β} (hy : y ∈ ys) : ∃ x ∈ xs, f x = .ok y := by
  have h2 := forall₂_of_mapM_eq_ok h
  clear h
  induction h2 with
  | nil => cases hy
  | @cons x y' xs ys hxy _ ih =>
      rcases List.mem_cons.1 hy with rfl | hy'
      · exact ⟨x, List.mem_cons_self, hxy⟩
      · obtain ⟨x', hx', hfx⟩ := ih hy'
        exact ⟨x', List.mem_cons_of_mem x hx', hfx⟩

/-- The root of a built tree holds the text with some pairs of enclosing
parentheses stripped, at whatever tier the building started. -/
theorem buildAt_text :
    ∀ cs tier t, buildAt cs tier = .ok t →
      ∃ k, cs = List.replicate k '(' ++ t.text.toList ++ List.replicate k ')' := by
  refine buildAt_ok_induct _ ?leaf ?strip ?pass ?cut
  case leaf =>
    intro cs _ _
    exact ⟨0, by simp [text]⟩
  case strip =>
    -- one more pair, around the pairs stripped from the inside
    intro cs inner t _ hs ⟨k, hk⟩
    refine ⟨k + 1, ?_⟩
    rw [stripParens?_eq_some_iff.1 hs, hk, List.replicate_succ, List.replicate_succ']
    simp
  case pass =>
    intro _ _ _ _ _ h
    exact h
  case cut =>
    intro cs op ts _ _ _ _
    exact ⟨0, by simp [text]⟩

/-- A built tree's text is no longer than the text it was built from. -/
theorem length_text_le_of_buildAt {cs : List Char} {tier : Option Operator} {t : Expr}
    (h : buildAt cs tier = .ok t) : t.text.length ≤ cs.length := by
  obtain ⟨k, hk⟩ := buildAt_text cs tier t h
  have hlen := congrArg List.length hk
  simp only [List.length_append, List.length_replicate, String.length_toList] at hlen
  omega

/-- Every tree the builder returns branches. -/
theorem branching_of_buildAt : ∀ cs tier t, buildAt cs tier = .ok t → Branching t := by
  refine buildAt_ok_induct _ ?leaf ?strip ?pass ?cut
  case leaf =>
    intro cs _ _
    exact .leaf _
  case strip =>
    intro _ _ _ _ _ h
    exact h
  case pass =>
    intro _ _ _ _ _ h
    exact h
  case cut =>
    intro cs op ts hop hcut hm ih
    have htwo := (hasCut_iff _ _).1 hcut
    refine .node (by rw [← (forall₂_of_mapM_eq_ok hm).length_eq]; exact htwo)
      (fun c hc => ?_) (fun c hc => ?_)
    · -- each child is the tree of one part, and a part is shorter than the text
      obtain ⟨p, hp, hpc⟩ := exists_mem_of_mapM_eq_ok hm hc
      have hshort := length_lt_of_mem_splitTier htwo hp
      have hchild := length_text_le_of_buildAt hpc
      rw [String.length_ofList]
      omega
    · obtain ⟨p, hp, hpc⟩ := exists_mem_of_mapM_eq_ok hm hc
      exact ih p hp c hpc

/-- A tree built from any text branches; a blank text builds nothing. -/
theorem branching_of_buildChars {cs : List Char} {t : Expr} (h : buildChars cs = .ok t) :
    Branching t := by
  unfold buildChars at h
  split at h
  · cases h
  · exact branching_of_buildAt cs _ t h

/-! ### The evaluator never finds a node without children -/

section Evaluator

variable {R : Rules} {s : String} {op : Operator} {c : Expr} {cs : List Expr} {x : String}

/-- A step of a fold fails as malformed only where the next child, or the rest
of the fold, does: the checks and the operator fail in other ways. -/
theorem foldSteps_cons_eq_malformed {acc : Decimal} {first : Option Expr}
    (h : foldSteps R s op acc first (c :: cs) = .error (.malformed x)) :
    operand R c = .error (.malformed x) ∨ ∃ r, foldSteps R s op r none cs = .error (.malformed x) := by
  simp only [foldSteps, bind_eq_error_iff, ← ite_and] at h
  simp only [ite_throw_eq_error, bind_eq_error_iff, reduceCtorEq, and_false, false_or] at h
  rcases h with hc | ⟨v, -, -, hstep⟩
  · exact .inl hc
  · rcases hstep with happ | ⟨r, -, -, -, hrest⟩
    · exact absurd (Operator.apply_eq_error happ) (by simp)
    · exact .inr ⟨r, hrest⟩

/-- A node with children fails as malformed only where its first child, or its
fold, does: the subtraction check fails in another way. -/
theorem nodeValue_cons_eq_malformed (h : nodeValue R s op (c :: cs) = .error (.malformed x)) :
    operand R c = .error (.malformed x) ∨
      ∃ v, foldSteps R s op v (some c) cs = .error (.malformed x) := by
  rw [nodeValue] at h
  by_cases hsub : (R.selfSubtraction && op == .sub && hasSelfSubtraction (c :: cs)) = true
  · rw [if_pos hsub] at h
    cases h
  · rw [if_neg hsub, bind_eq_error_iff] at h
    rcases h with hc | ⟨v, -, hrest⟩
    · exact .inl hc
    · exact .inr ⟨v, hrest⟩

end Evaluator

/-- On a branching tree the evaluator never meets a node without children, so
it never fails as malformed, under any rules. -/
theorem operand_ne_malformed (R : Rules) (e : Expr) (he : Branching e) (x : String) :
    operand R e ≠ .error (.malformed x) := by
  -- one induction over the evaluator's three functions; a node and a fold carry
  -- the branching of their children
  refine (operand.mutual_induct R
    (fun e => Branching e → ∀ x, operand R e ≠ .error (.malformed x))
    (fun s op cs => cs ≠ [] → (∀ c ∈ cs, Branching c) →
      ∀ x, nodeValue R s op cs ≠ .error (.malformed x))
    (fun s op acc first cs => (∀ c ∈ cs, Branching c) →
      ∀ x, foldSteps R s op acc first cs ≠ .error (.malformed x))
    ?leaf ?node ?empty ?cancels ?children ?done ?step).1 e he x
  case leaf =>
    intro t _ x
    exact Decimal.parse_ne_malformed t x
  case node =>
    intro s op cs ih hb x
    cases hb with
    | node htwo _ hcs => exact ih (List.ne_nil_of_length_pos (by omega)) hcs x
  case empty =>
    intro s op hne
    exact absurd rfl hne
  case cancels =>
    intro s op c cs hsub _ _ x h
    rw [nodeValue, if_pos hsub] at h
    cases h
  case children =>
    intro s op c cs _ hc hcs _ hb x h
    rcases nodeValue_cons_eq_malformed h with h | ⟨v, h⟩
    · exact hc (hb c List.mem_cons_self) x h
    · exact hcs v (fun d hd => hb d (List.mem_cons_of_mem c hd)) x h
  case done =>
    intro s op acc first _ x h
    cases h
  case step =>
    intro s op acc first c cs hc hcs hb x h
    rcases foldSteps_cons_eq_malformed h with h | ⟨r, h⟩
    · exact hc (hb c List.mem_cons_self) x h
    · exact hcs r (fun d hd => hb d (List.mem_cons_of_mem c hd)) x h

/-- The solution checks fail only out of range or as a fraction. -/
theorem checkSolution_ne_malformed (c : Constraints) (v : Decimal) (x : String) :
    checkSolution c v ≠ .error (.malformed x) := by
  unfold checkSolution
  split
  · split
    · simp
    · split <;> simp
  · split <;> simp

/-- A branching tree is never evaluated as malformed. -/
theorem evaluate_ne_malformed (c : Constraints) {t : Expr} (ht : Branching t) (x : String) :
    evaluate c t ≠ .error (.malformed x) := by
  intro h
  rw [evaluate, bind_eq_error_iff] at h
  rcases h with hv | ⟨v, -, hc⟩
  · rw [← operand_eq_value] at hv
    exact operand_ne_malformed c.rules t ht x hv
  · exact checkSolution_ne_malformed c v x hc

/-- A text builds into a branching tree whose root holds the text less some
pairs of enclosing parentheses, and which the evaluator never finds malformed.
So a text fails to solve as malformed only when its left side fails to build,
with the same message. -/
theorem build_ok_branching :
    (∀ (s : String) (t : Expr), build s = .ok t →
      Branching t ∧
        (∃ k, s.toList = List.replicate k '(' ++ t.text.toList ++ List.replicate k ')') ∧
        ∀ (c : Constraints) (x : String), evaluate c t ≠ .error (.malformed x)) ∧
    ∀ (c : Constraints) (s x : String), solve c s = .error (.malformed x) →
      buildEquation s = .error (.malformed x) := by
  refine ⟨fun s t hb => ?_, fun c s x h => ?_⟩
  · have ht := branching_of_buildChars hb
    refine ⟨ht, ?_, fun c x => evaluate_ne_malformed c ht x⟩
    -- a blank text builds nothing, so the tree came from the loosest tier
    unfold build buildChars at hb
    split at hb
    · cases hb
    · exact buildAt_text s.toList _ t hb
  · rw [solve, bind_eq_error_iff] at h
    rcases h with hb | ⟨t, hb, he⟩
    · exact hb
    · exact absurd he (evaluate_ne_malformed c (branching_of_buildChars hb) x)

end Expr

end ArithQuiz
