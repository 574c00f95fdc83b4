import Mathlib
import ArithQuiz.Quiz.Generate
import ArithQuiz.Proofs.Quiz.Tokens
import ArithQuiz.Proofs.Expr.Rules

/-!
# `ArithQuiz.Proofs.Quiz.Assembly`: what an assembled equation is

An equation is assembled from an ordered list of the quiz's variables: their
identifiers, perhaps mutated, joined by operators make the identifier form
`u`; the values put in place of the identifiers make the value form `w`; `w`
is solved under the equation's rules and range to `v`; and both forms end in
`=` and the shown solution. `Assembled` states all of this, with what follows
from the solving: the tree of `w` is kept by the rules
(`ArithQuiz.Proofs.Expr.Rules`), `v` lies in the range, and solving the value
form of the equation without rules gives `v` again, whatever follows the first
`=`.

In token mode a negative value put into `w` would be a minus sign right after
an operator, an opening parenthesis or nothing at all, which no sentence of
the tier grammar holds (`Derives.signs`). Each variable of the equation stands
in `u` in such a place (`identifierFormWith_place`), so a negative value can
only come through when the identifier form puts it after an `=`, where the
solver never reads. With no `=` in the identifiers that cannot happen
(`tokenValues_nonneg`).

The main statement is `assembled_of_assemble`: every equation an attempt
returns is `Assembled`, for every source of draws.
-/

set_option autoImplicit false

namespace ArithQuiz

open ArithQuiz.Random

/-! ### The texts of numbers -/

/-- The text of an integer holds digits and perhaps a minus sign. -/
theorem mem_toString_int (a : ℤ) {c : Char} (h : c ∈ (toString a).toList) :
    c.isDigit = true ∨ c = '-' := by
  change c ∈ (Int.repr a).toList at h
  cases a with
  | ofNat m => exact .inl (Decimal.isDigit_of_mem_repr m c h)
  | negSucc m =>
      rw [Int.repr, String.toList_append, List.mem_append] at h
      rcases h with h | h
      · exact .inr (by simpa using h)
      · exact .inl (Decimal.isDigit_of_mem_repr _ c h)

/-! ### Where an identifier stands in the identifier form -/

/-- What comes before an operand: nothing, an operator or an opening
parenthesis. -/
def OpensOperand (P : List Char) : Prop := ∀ c ∈ P.getLast?, isStructural c = true ∧ c ≠ ')'

/-- What ends a token: nothing, or a separator. -/
def ClosesToken (S : List Char) : Prop := ∀ c ∈ S.head?, isStructural c = true

theorem opensOperand_nil : OpensOperand [] := by
  simp [OpensOperand]

theorem closesToken_nil : ClosesToken [] := by
  simp [ClosesToken]

theorem opensOperand_append_of_ne_nil (P : List Char) {Q : List Char} (hQ : Q ≠ [])
    (h : OpensOperand Q) : OpensOperand (P ++ Q) := by
  rw [OpensOperand, List.getLast?_append_of_ne_nil P hQ]
  exact h

theorem opensOperand_cons {c : Char} (hc : isStructural c = true ∧ c ≠ ')') {L : List Char}
    (hL : OpensOperand L) : OpensOperand (c :: L) := by
  intro d hd
  rw [List.getLast?_cons, Option.mem_def, Option.some.injEq] at hd
  cases hl : L.getLast? with
  | none => rw [hl] at hd; exact hd ▸ hc
  | some e => rw [hl] at hd; exact hd ▸ hL e hl

theorem closesToken_append_of_ne_nil {S : List Char} (T : List Char) (hS : S ≠ [])
    (h : ClosesToken S) : ClosesToken (S ++ T) := by
  rw [ClosesToken, List.head?_append_of_ne_nil S hS]
  exact h

/-- The characters the generator adds around identifiers: operators,
parentheses, digits, points. -/
def Framing (c : Char) : Prop := isStructural c = true ∨ c.isDigit = true ∨ c = '.'

instance : DecidablePred Framing := fun c =>
  inferInstanceAs (Decidable (isStructural c = true ∨ c.isDigit = true ∨ c = '.'))

/-- The scaled form of an identifier: times the multiplier's literal, if it
has one. -/
def scaledForm (m : Mutation) (id : String) : String :=
  match m.multiplier.literal? with
  | some lit => "(" ++ id ++ "*" ++ lit ++ ")"
  | none => id

/-- The scaled form is the identifier, or the identifier in parentheses
followed by `*` and a number. -/
theorem scaledForm_place (m : Mutation) (id : String) :
    ∃ L R, (scaledForm m id).toList = L ++ id.toList ++ R ∧ OpensOperand L ∧ ClosesToken R ∧
      (L = [] ∨ L = ['(']) ∧ (R = [] ∨ ∃ R', R = '*' :: R') ∧ ∀ c ∈ L ++ R, Framing c := by
  unfold scaledForm
  cases hm : m.multiplier with
  | one => exact ⟨[], [], by simp [Multiplier.literal?], opensOperand_nil, closesToken_nil,
      .inl rfl, .inl rfl, by simp⟩
  | half => exact ⟨['('], '*' :: "0.5".toList ++ [')'], by simp [Multiplier.literal?],
      by simp [OpensOperand, isStructural], by simp [ClosesToken, isStructural, Operator.isSymbol],
      .inr rfl, .inr ⟨_, rfl⟩, by simp [Framing, isStructural_iff]⟩
  | quarter => exact ⟨['('], '*' :: "0.25".toList ++ [')'], by simp [Multiplier.literal?],
      by simp [OpensOperand, isStructural], by simp [ClosesToken, isStructural, Operator.isSymbol],
      .inr rfl, .inr ⟨_, rfl⟩, by simp [Framing, isStructural_iff]⟩

/-- A step run on the journal a state carries answers as it does on that
journal. -/
theorem along_fst {σ α : Type} [Journaled σ] (step : StateM Journal α) (g : σ) :
    (Journaled.along step g).1 = (step.run (Journaled.journal g)).1 := by
  unfold Journaled.along
  rcases step.run (Journaled.journal g) with ⟨a, j⟩
  rfl

section

variable {σ : Type} [DrawSource σ]

/-- After the coin: the scaled form, or the scaled form times a drawn
amplifier. -/
theorem amplify_cases {m : Mutation} {s text : String} {e : AttemptError} {g g' : σ}
    (h : (if m.amplifier.isEmpty = true then (Except.error e, g) else
      match DrawSource.uniformInt m.amplifier.min m.amplifier.max g with
      | (a, g) => if a = 1 then (Except.ok s, g) else (Except.ok ("(" ++ toString a ++ "*" ++ s ++ ")"), g)) =
      (.ok text, g')) :
    text = s ∨ ∃ a : ℤ, text = "(" ++ toString a ++ "*" ++ s ++ ")" := by
  split at h
  · cases h
  split at h
  rename_i a g₁ _
  split at h
  · cases h
    exact .inl rfl
  · cases h
    exact .inr ⟨a, rfl⟩

/-- What a mutation can make of an identifier: the identifier itself, its
scaled form, or its scaled form times an amplifier. -/
theorem applyWith_cases {m : Mutation} {p : ℚ} {id text : String} {g g' : σ}
    (h : m.applyWith p id g = (.ok text, g')) :
    text = id ∨ text = scaledForm m id ∨
      ∃ a : ℤ, text = "(" ++ toString a ++ "*" ++ scaledForm m id ++ ")" := by
  unfold Mutation.applyWith at h
  split at h
  · cases h
    exact .inl rfl
  split at h
  · cases h
  split at h
  split at h
  · cases h
    exact .inl rfl
  exact .inr (amplify_cases h)

/-- A mutated identifier is the identifier with text around it: an opening
parenthesis or a `*` before it, a `*` or a closing parenthesis after it, and
in between only operators, parentheses, digits and points. -/
theorem applyWith_place {m : Mutation} {p : ℚ} {id text : String} {g g' : σ}
    (h : m.applyWith p id g = (.ok text, g')) :
    ∃ L R, text.toList = L ++ id.toList ++ R ∧ OpensOperand L ∧ ClosesToken R ∧
      ∀ c ∈ L ++ R, Framing c := by
  obtain ⟨L, R, hs, hL, hR, hL', hR', hframe⟩ := scaledForm_place m id
  rcases applyWith_cases h with rfl | rfl | ⟨a, rfl⟩
  · exact ⟨[], [], by simp, opensOperand_nil, closesToken_nil, by simp⟩
  · exact ⟨L, R, hs, hL, hR, hframe⟩
  · -- the amplifier in front: `(a*` before and `)` after the scaled form
    refine ⟨('(' :: (toString a).toList) ++ '*' :: L, R ++ [')'], by simp [hs], ?_, ?_, ?_⟩
    · refine opensOperand_append_of_ne_nil _ (List.cons_ne_nil _ _)
        (opensOperand_cons (by decide) ?_)
      rcases hL' with rfl | rfl
      · exact opensOperand_nil
      · simp [OpensOperand, isStructural]
    · rcases hR' with rfl | ⟨R', rfl⟩
      · simp [ClosesToken, isStructural]
      · simp [ClosesToken, isStructural, Operator.isSymbol]
    · intro c hc
      have hc' : c = '(' ∨ c ∈ (toString a).toList ∨ c = '*' ∨ c ∈ L ∨ c ∈ R ∨ c = ')' := by
        simpa [or_assoc] using hc
      rcases hc' with rfl | hc | rfl | hc | hc | rfl
      · exact .inl rfl
      · rcases mem_toString_int a hc with hc | rfl
        · exact .inr (.inl hc)
        · exact .inl rfl
      · exact .inl rfl
      · exact hframe c (List.mem_append_left R hc)
      · exact hframe c (List.mem_append_right L hc)
      · exact .inl rfl

/-- The operator written after the identifier of a position: the first one
left, if any. -/
def separator : List Operator → String
  | op :: _ => op.symbol.toString
  | [] => ""

/-- One step of the identifier form: the first identifier, perhaps mutated,
then the operator of its position, if any, then the form of the rest. -/
theorem identifierFormWith_cons_eq_ok {m : Mutation} {p : ℚ} {v : Variable} {vs : List Variable}
    {ops : List Operator} {g g' : σ} {u : String}
    (h : identifierFormWith m p (v :: vs) ops g = (.ok u, g')) :
    ∃ text rest g₁, m.applyWith p v.identifier g = (.ok text, g₁) ∧
      identifierFormWith m p vs ops.tail g₁ = (.ok rest, g') ∧
      u = text ++ separator ops ++ rest := by
  rw [identifierFormWith.eq_def] at h
  dsimp only at h
  split at h
  · cases h
  rename_i text g₁ happly
  split at h
  · cases h
  rename_i rest g₂ hrest
  cases h
  exact ⟨text, rest, g₁, happly, hrest, rfl⟩

/-- Each variable of the identifier form stands in it after nothing, an
operator or an opening parenthesis, and before nothing or a separator, as
long as there is an operator for each gap. -/
theorem identifierFormWith_place {m : Mutation} {p : ℚ} :
    ∀ {vs : List Variable} {ops : List Operator} {g g' : σ} {u : String},
      vs.length ≤ ops.length + 1 → identifierFormWith m p vs ops g = (.ok u, g') →
      ∀ y ∈ vs, ∃ P S, u.toList = P ++ y.identifier.toList ++ S ∧ OpensOperand P ∧ ClosesToken S
  | [], _, _, _, _, _, _, y, hy => absurd hy List.not_mem_nil
  | v :: vs, ops, g, g', u, hlen, h, y, hy => by
      obtain ⟨text, rest, g₁, happly, hrest, rfl⟩ := identifierFormWith_cons_eq_ok h
      obtain ⟨L, R, htext, hL, hR, -⟩ := applyWith_place happly
      cases ops with
      | nil =>
          -- no operator left: `v` is the last variable
          have hvs : vs = [] := by simpa using hlen
          subst hvs
          rw [identifierFormWith.eq_1] at hrest
          cases hrest
          obtain rfl : y = v := List.mem_singleton.1 hy
          exact ⟨L, R, by simp [htext, separator], hL, hR⟩
      | cons op ops =>
          have hsep : isStructural op.symbol = true ∧ op.symbol ≠ ')' :=
            ⟨isStructural_symbol op, by cases op <;> decide⟩
          rcases List.mem_cons.1 hy with rfl | hy
          · -- the variable comes first: after it, its own closing text or the operator
            refine ⟨L, R ++ op.symbol :: rest.toList, by simp [htext, separator], hL, ?_⟩
            cases R with
            | nil => simpa [ClosesToken] using hsep.1
            | cons r R => exact closesToken_append_of_ne_nil _ (List.cons_ne_nil r R) hR
          · -- the variable comes later: before it, the operator or its own opening text
            obtain ⟨P, S, hrest', hP, hS⟩ :=
              identifierFormWith_place (by simp at hlen ⊢; omega) hrest y hy
            refine ⟨text.toList ++ op.symbol :: P, S, by simp [hrest', separator], ?_, hS⟩
            exact opensOperand_append_of_ne_nil _ (List.cons_ne_nil _ _) (opensOperand_cons hsep hP)

/-- Each character of the identifier form is framing or a character of an
identifier. -/
theorem identifierFormWith_chars {m : Mutation} {p : ℚ} :
    ∀ {vs : List Variable} {ops : List Operator} {g g' : σ} {u : String},
      identifierFormWith m p vs ops g = (.ok u, g') →
      ∀ c ∈ u.toList, Framing c ∨ ∃ y ∈ vs, c ∈ y.identifier.toList
  | [], _, _, _, _, h, c, hc => by
      rw [identifierFormWith.eq_1] at h
      cases h
      exact absurd hc List.not_mem_nil
  | v :: vs, ops, g, g', u, h, c, hc => by
      obtain ⟨text, rest, g₁, happly, hrest, rfl⟩ := identifierFormWith_cons_eq_ok h
      obtain ⟨L, R, htext, -, -, hframe⟩ := applyWith_place happly
      rw [String.toList_append, String.toList_append, htext] at hc
      have hc' : c ∈ L ∨ c ∈ v.identifier.toList ∨ c ∈ R ∨ c ∈ (separator ops).toList ∨
          c ∈ rest.toList := by
        simpa [or_assoc] using hc
      rcases hc' with hc | hc | hc | hc | hc
      · exact .inl (hframe c (List.mem_append_left R hc))
      · exact .inr ⟨v, List.mem_cons_self .., hc⟩
      · exact .inl (hframe c (List.mem_append_right L hc))
      · -- the operator of the position
        left; left
        cases ops with
        | nil => exact absurd hc (by simp [separator])
        | cons op _ =>
            have hc' : c = op.symbol := by simpa [separator] using hc
            exact hc' ▸ isStructural_symbol op
      · rcases identifierFormWith_chars hrest c hc with hc | ⟨y, hy, hc⟩
        · exact .inl hc
        · exact .inr ⟨y, List.mem_cons_of_mem v hy, hc⟩

/-! ### One attempt at an equation -/

theorem mem_of_choose_eq_some {α : Type} {xs : List α} {g g' : σ} {x : α}
    (h : DrawSource.choose xs g = (some x, g')) : x ∈ xs := by
  unfold DrawSource.choose at h
  split at h
  · cases h
  · exact List.mem_of_getElem? (Prod.mk.inj h).1

/-- The variables picked in combination order come from the pool. -/
theorem mem_pickInOrder (amount : ℕ) (pool : List Variable) :
    ∀ (ids : List String) (acc : List Variable) {y : Variable},
      y ∈ pickInOrder amount pool ids acc → y ∈ acc ∨ y ∈ pool
  | [], _, _, h => .inl h
  | id :: ids, acc, y, h => by
      rw [pickInOrder] at h
      split at h
      · exact .inl h
      split at h
      · rename_i v hv
        rcases mem_pickInOrder amount pool ids _ h with h | h
        · rcases List.mem_append.1 h with h | h
          · exact .inl h
          · exact .inr (List.mem_singleton.1 h ▸ List.mem_of_find?_eq_some hv)
        · exact .inr h
      · exact mem_pickInOrder amount pool ids acc h

/-- The variables added from the pool come from the pool. -/
theorem mem_fillFromPool (pool : List Variable) :
    ∀ {n : ℕ} {acc ordered : List Variable} {g g' : σ} {y : Variable},
      fillFromPool pool n acc g = (ordered, g') → y ∈ ordered → y ∈ acc ∨ y ∈ pool
  | 0, _, _, _, _, _, h, hy => by
      rw [fillFromPool] at h
      cases h
      exact .inl hy
  | n + 1, acc, ordered, g, g', y, h, hy => by
      rw [fillFromPool] at h
      split at h
      · rename_i v g₁ hv
        rcases mem_fillFromPool pool h hy with h | h
        · rcases List.mem_append.1 h with h | h
          · exact .inl h
          · exact .inr (List.mem_singleton.1 h ▸ mem_of_choose_eq_some hv)
        · exact .inr h
      · cases h
        exact .inl hy

/-- What an equation shows after `=`: its solution, or `?` when hidden. -/
def EquationSpec.shown (spec : EquationSpec) (v : Decimal) : String :=
  if spec.solution.hide then "?" else v.toText

/-- An attempt that returns an equation took an ordered list of the
variables with one operator per gap, wrote their identifier form, solved its
value form, and wrote both forms with the shown solution. -/
theorem assemble_eq_ok [Journaled σ] {spec : EquationSpec} {vars : List Variable} {g g' : σ}
    {e : Equation} (h : spec.assemble vars g = (.ok e, g')) :
    ∃ (ops : List Operator) (ordered : List Variable) (u : String) (v : Decimal) (g₁ g₂ : σ),
      (∀ y ∈ ordered, y ∈ vars) ∧ ordered.length = ops.length + 1 ∧
      identifierFormWith spec.mutation spec.mutation.chance.toRat ordered ops g₁ = (.ok u, g₂) ∧
      Expr.solve spec.constraints (spec.substitution.apply u ordered) = .ok v ∧
      e = ⟨u ++ "=" ++ spec.shown v, spec.substitution.apply u ordered ++ "=" ++ spec.shown v⟩ := by
  unfold EquationSpec.assemble at h
  dsimp only at h
  split at h
  · cases h
  split at h
  · cases h
  rename_i ops g₀ hops
  split at h
  · cases h
  rename_i combo g₁ hcombo
  -- the ordered variables, whatever the pool gives
  generalize hfill : fillFromPool _ _ _ g₁ = res at h
  obtain ⟨ordered, g₂⟩ := res
  dsimp only at h
  split at h
  · cases h
  rename_i hcount
  split at h
  · cases h
  rename_i u g₃ hu
  split at h
  · cases h
  rename_i v g₄ hsolve
  cases h
  -- the variables come from the pool, which comes from the quiz's variables
  have hmem : ∀ y ∈ ordered, y ∈ vars := by
    intro y hy
    rcases mem_fillFromPool _ hfill hy with hy | hy
    · rcases mem_pickInOrder _ _ combo [] hy with hy | hy
      · exact absurd hy List.not_mem_nil
      · exact (List.mem_filter.1 hy).1
    · exact (List.mem_filter.1 hy).1
  have hv : Expr.solve spec.constraints (spec.substitution.apply u ordered) = .ok v := by
    have := congrArg Prod.fst hsolve
    rwa [along_fst, Expr.solveNoting_run_fst] at this
  exact ⟨ops, ordered, u, v, g₂, g₃, hmem, by omega, hu, hv, rfl⟩

end

/-! ### Solving the value form -/

namespace Expr

/-- Solving under constraints succeeds exactly when the left side is built
into a tree whose plain value passes the rules, the range and the wholeness
check. -/
theorem solve_eq_ok_iff {c : Constraints} {s : String} {v : Decimal} :
    solve c s = .ok v ↔ ∃ t, buildEquation s = .ok t ∧ value {} t = .ok v ∧ Keeps c.rules t ∧
      (∀ r, c.range = some r → r.min ≤ v ∧ v ≤ r.max) ∧
      (c.rules.decimalSolution = true → ∃ n : ℤ, v.toRat = n) := by
  rw [solve, bind_eq_ok_iff]
  refine exists_congr fun t => and_congr_right fun _ => ?_
  rw [evaluate, bind_eq_ok_iff]
  simp only [checkSolution_eq_ok]
  constructor
  · rintro ⟨a, ha, rfl, hr, hw⟩
    obtain ⟨hp, hk⟩ := (value_eq_ok_iff_keeps _ t a).1 ha
    exact ⟨hp, hk, hr, hw⟩
  · rintro ⟨hp, hk, hr, hw⟩
    exact ⟨v, (value_eq_ok_iff_keeps _ t v).2 ⟨hp, hk⟩, rfl, hr, hw⟩

/-- Only the left side of an equation is solved: what follows an `=` put
after a text changes nothing. -/
theorem solve_append_equals (c : Constraints) (w σ : String) :
    solve c (w ++ "=" ++ σ) = solve c w := by
  have hleft : equationLeft (w ++ "=" ++ σ) = equationLeft w := by
    simp only [equationLeft, String.toList_append, List.append_assoc]
    rw [List.takeWhile_append]
    split
    · rename_i hall
      have hw : w.toList.takeWhile (· ≠ '=') = w.toList :=
        (List.takeWhile_prefix _).eq_of_length hall
      rw [hw]
      simp
    · rfl
  simp only [solve, buildEquation, hleft]

end Expr

section

variable {σ : Type} [DrawSource σ]

/-- Around a whole token of a text: its replacement comes after the
replacement of what stands before it, which ends as that did. -/
theorem replaceTokens_around (vars : List Variable) {P run S : List Char} (hP : OpensOperand P)
    (hrun : ∀ c ∈ run, isStructural c = false) (hS : ClosesToken S) :
    ∃ A B, replaceTokens vars [] (P ++ run ++ S) = A ++ tokenValue vars run ++ B ∧
      OpensOperand A ∧ ∀ c ∈ A, c ∈ P ∨ ∃ y ∈ vars, c ∈ y.value.toText.toList := by
  -- the token and what follows it
  have hafter : ∃ B, replaceTokens vars [] (run ++ S) = tokenValue vars run ++ B := by
    cases S with
    | nil => exact ⟨[], by rw [List.append_nil, List.append_nil, replaceTokens_run vars run hrun]⟩
    | cons s S =>
        have hs : isStructural s = true := hS s rfl
        rw [replaceTokens_append_structural vars [] run S hs, replaceTokens_run vars run hrun]
        exact ⟨_, rfl⟩
  obtain ⟨B, hB⟩ := hafter
  rcases List.eq_nil_or_concat' P with rfl | ⟨P', s, rfl⟩
  · exact ⟨[], B, by simpa using hB, opensOperand_nil, by simp⟩
  · -- what stands before ends with a separator, which stays
    have hs : isStructural s = true ∧ s ≠ ')' := hP s (by simp)
    refine ⟨replaceTokens vars [] P' ++ [s], B, ?_, ?_, ?_⟩
    · rw [List.append_assoc, List.append_assoc, List.singleton_append,
        replaceTokens_append_structural vars [] P' _ hs.1, hB]
      simp
    · simpa [OpensOperand] using hs
    · intro c hc
      rcases List.mem_append.1 hc with hc | hc
      · rcases mem_replaceTokens vars [] P' hc with hc | hc | hc
        · exact .inl (List.mem_append_left _ hc)
        · exact absurd hc List.not_mem_nil
        · exact .inr hc
      · exact .inl (List.mem_append_right _ hc)

/-- In token mode, no value put into a solved value form is negative, unless
an `=` in an identifier hides it from the solver. Each variable stands in the
identifier form where an operand starts, so its value would bring a minus sign
where no sentence has one. -/
theorem tokenValues_nonneg {m : Mutation} {p : ℚ} {ordered : List Variable}
    {ops : List Operator} {g g' : σ} {u : String} {c : Constraints} {v : Decimal}
    (hint : ∀ y ∈ ordered, ∃ n : ℤ, y.value = Decimal.ofInt n)
    (hlen : ordered.length ≤ ops.length + 1)
    (hu : identifierFormWith m p ordered ops g = (.ok u, g'))
    (hsolve : Expr.solve c (Substitution.token.apply u ordered) = .ok v)
    (heq : ∀ y ∈ ordered, '=' ∉ y.identifier.toList) :
    ∀ tok ∈ tokens u.toList, ∀ y, ordered.find? (·.identifier == String.ofList tok) = some y →
      0 ≤ y.value.toRat := by
  intro tok htok y hy
  by_contra hneg
  have hyo : y ∈ ordered := List.mem_of_find?_eq_some hy
  obtain ⟨n, hn⟩ := hint y hyo
  have hn0 : n < 0 := by
    have h' : (n : ℚ) < 0 := by
      rw [hn] at hneg
      exact lt_of_not_ge hneg
    exact_mod_cast h'
  -- the variable's identifier is the token, so it has no separator
  have hid : y.identifier = String.ofList tok := by
    simpa using List.find?_some hy
  have hrun : ∀ c ∈ y.identifier.toList, isStructural c = false := by
    rw [hid, String.toList_ofList]
    exact isStructural_of_mem_tokens htok
  have hy' : ordered.find? (·.identifier == String.ofList y.identifier.toList) = some y := by
    rw [String.ofList_toList, hid]
    exact hy
  have hvalue : tokenValue ordered y.identifier.toList = '-' :: (Decimal.natText n.natAbs).toList := by
    rw [tokenValue_of_find ordered hy', hn, Decimal.toText_ofInt, if_pos hn0]
    rfl
  -- where the variable stands, and what its value comes after
  obtain ⟨P, S, hu', hP, hS⟩ := identifierFormWith_place hlen hu y hyo
  obtain ⟨A, B, hw, hA, hAchars⟩ := replaceTokens_around ordered hP hrun hS
  have hnoeq : ∀ c ∈ A, c ≠ '=' := by
    intro c hc heqc
    subst heqc
    rcases hAchars _ hc with hc | ⟨z, hz, hc⟩
    · have hcu : '=' ∈ u.toList := by rw [hu']; simp [hc]
      rcases identifierFormWith_chars hu _ hcu with hf | ⟨z, hz, hc⟩
      · rcases hf with hf | hf | hf <;> exact absurd hf (by decide)
      · exact heq z hz hc
    · rcases Decimal.mem_toText _ hc with hd | hd | hd <;> exact absurd hd (by decide)
  -- the left side read by the solver holds the minus sign right after `A`
  have hleft : Expr.equationLeft (Substitution.token.apply u ordered) =
      A ++ '-' :: ((Decimal.natText n.natAbs).toList ++ B).takeWhile (· ≠ '=') := by
    rw [Expr.equationLeft, Substitution.apply, String.toList_ofList, hu', hw, hvalue,
      List.append_assoc, List.takeWhile_append_of_pos (by simpa using hnoeq)]
    simp
  obtain ⟨t, hb, hval, -⟩ := Expr.solve_eq_ok_iff.1 hsolve
  have hsigns := (Expr.derives_of_buildEquation hb ⟨v, hval⟩).signs
  rw [hleft] at hsigns
  rcases List.eq_nil_or_concat' A with rfl | ⟨A', s, rfl⟩
  · exact hsigns.ne_minus_cons
  · have hs := hA s (by simp)
    rw [List.append_assoc, List.singleton_append] at hsigns
    rcases hsigns.before_minus with hd | hd
    · rw [isStructural_of_isDigit hd] at hs
      exact Bool.false_ne_true hs.1
    · exact hs.2 hd

/-! ### Every equation an attempt returns -/

/-- An equation `e` assembled from the variables `vars`: `u` is the identifier
form of the variables `ordered`, taken from `vars`, and `v` is the solution of
its value form under the equation's rules and range. Both forms are written
with `=` and the shown solution. The solution keeps the rules that are on, lies
in the range and is whole where asked; solving the value form of `e` again,
with no rules, gives `v`. In token mode no value put into the value form is
negative, as long as no identifier holds an `=`. -/
structure Assembled (spec : EquationSpec) (vars : List Variable) (e : Equation) (u : String)
    (ordered : List Variable) (v : Decimal) : Prop where
  ordered_mem : ∀ y ∈ ordered, y ∈ vars
  identifiers_eq : e.identifiers = u ++ "=" ++ spec.shown v
  values_eq : e.values = spec.substitution.apply u ordered ++ "=" ++ spec.shown v
  solves : Expr.solve spec.constraints (spec.substitution.apply u ordered) = .ok v
  kept : ∃ t, Expr.buildEquation (spec.substitution.apply u ordered) = .ok t ∧
    Expr.Keeps spec.rules t
  inRange : ∀ r, spec.solution.range = some r → r.min ≤ v ∧ v ≤ r.max
  whole : spec.rules.decimalSolution = true → ∃ n : ℤ, v.toRat = n
  resolves : Expr.solve {} e.values = .ok v
  tokenValuesNonneg : spec.substitution = .token → (∀ y ∈ ordered, '=' ∉ y.identifier.toList) →
    ∀ tok ∈ tokens u.toList, ∀ y, ordered.find? (·.identifier == String.ofList tok) = some y →
      0 ≤ y.value.toRat

/-- Every equation an attempt returns is assembled from the variables it was
given, for every source of draws, as long as the variables have whole
values. -/
theorem assembled_of_assemble [Journaled σ] {spec : EquationSpec} {vars : List Variable}
    {g g' : σ} {e : Equation} (hint : ∀ y ∈ vars, ∃ n : ℤ, y.value = Decimal.ofInt n)
    (h : spec.assemble vars g = (.ok e, g')) :
    ∃ u ordered v, Assembled spec vars e u ordered v := by
  obtain ⟨ops, ordered, u, v, g₁, g₂, hmem, hlen, hu, hsolve, rfl⟩ := assemble_eq_ok h
  obtain ⟨t, hb, hval, hkeeps, hrange, hwhole⟩ := Expr.solve_eq_ok_iff.1 hsolve
  -- the solver stops at the first `=`, and without rules the value is all it checks
  have hresolves :
      Expr.solve {} (spec.substitution.apply u ordered ++ "=" ++ spec.shown v) = .ok v := by
    rw [Expr.solve_append_equals, Expr.solve, hb]
    exact (Expr.evaluate_plain t).trans hval
  have hnonneg : spec.substitution = .token → (∀ y ∈ ordered, '=' ∉ y.identifier.toList) →
      ∀ tok ∈ tokens u.toList, ∀ y, ordered.find? (·.identifier == String.ofList tok) = some y →
        0 ≤ y.value.toRat := by
    intro htoken heq
    rw [htoken] at hsolve
    exact tokenValues_nonneg (fun y hy => hint y (hmem y hy)) hlen.le hu hsolve heq
  exact ⟨u, ordered, v, hmem, rfl, rfl, hsolve, ⟨t, hb, hkeeps⟩, hrange, hwhole, hresolves, hnonneg⟩

end

end ArithQuiz
