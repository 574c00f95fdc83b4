import Mathlib
import ArithQuiz.Proofs.Quiz.Validated

/-!
# `ArithQuiz.Proofs.Quiz.Placement`: which variables an attempt places, and where

After its operators and its combination an attempt places its variables. The
pool is the quiz's variables whose identifier is in the combination, in their
own order (`comboPool`). The first places go to the first variable of the
pool for each identifier of the combination, in combination order with
repeats (`firstOfEach`), as many as there are places; the rest are drawn from
the pool. The identifier form mutates each placed identifier in turn
(`Mutation.applyEach`) and writes the texts with the drawn operators between
them (`joinWithOperators`).

* `pickInOrder_eq_take`: the picks in combination order are `firstOfEach`
  cut at the count;
* `fillFromPool_eq_append`: filling appends draws from the pool;
* `identifierFormWith_eq`: the identifier form is the mutated texts joined by
  the operators;
* `countP_joinWithOperators`: one operator symbol per gap, besides those the
  texts hold;
* `assemble_after_draws`: once its draws are made, an attempt fails on a
  count of places that does not match its operators, and otherwise writes its
  forms;
* `assemble_eq_operatorCount_zero_iff`: the failure for want of variables
  comes exactly when the pool is empty.

The main statement is `assemble_places_combo_then_pool`: for every list of
variables and every source whose positions fall below the length, an attempt
makes its draws and places its variables as `EquationSpec.PlacedBy` states.
-/

set_option autoImplicit false

namespace ArithQuiz

open ArithQuiz.Random

/-! ### The variables of a combination -/

/-- The quiz's variables whose identifier is in a combination, in their own
order. -/
def comboPool (vars : List Variable) (combo : List String) : List Variable :=
  vars.filter fun v => combo.contains v.identifier

/-- For each identifier of a combination, in combination order and repeats
included, the first variable of the pool with that identifier, if any. -/
def firstOfEach (pool : List Variable) (combo : List String) : List Variable :=
  combo.filterMap fun id => pool.find? (·.identifier == id)

/-- The first variables of the identifiers come from the pool. -/
theorem mem_of_mem_firstOfEach {pool : List Variable} {combo : List String} {y : Variable}
    (h : y ∈ firstOfEach pool combo) : y ∈ pool := by
  obtain ⟨id, -, hid⟩ := List.mem_filterMap.1 h
  exact List.mem_of_find?_eq_some hid

/-- Picking in combination order stops once the places are taken, so it adds
`firstOfEach` cut at the places left. -/
theorem pickInOrder_eq_append_take (amount : ℕ) (pool : List Variable) :
    ∀ (ids : List String) (acc : List Variable), acc.length ≤ amount →
      pickInOrder amount pool ids acc = acc ++ (firstOfEach pool ids).take (amount - acc.length)
  | [], acc, _ => by simp [pickInOrder, firstOfEach]
  | id :: ids, acc, hle => by
      rw [pickInOrder]
      split
      · rename_i hfull
        simp [hfull]
      rename_i hfull
      cases hv : pool.find? (·.identifier == id) with
      | none =>
          -- no variable with this identifier: it is passed over
          simpa [firstOfEach, hv] using pickInOrder_eq_append_take amount pool ids acc hle
      | some v =>
          -- its variable takes the next place
          obtain ⟨k, hk⟩ : ∃ k, amount - acc.length = k + 1 := ⟨amount - acc.length - 1, by omega⟩
          have hk' : amount - (acc.length + 1) = k := by omega
          dsimp only
          rw [pickInOrder_eq_append_take amount pool ids (acc ++ [v]) (by simp; omega)]
          simp [firstOfEach, hv, hk, hk']

/-- The picks in combination order: `firstOfEach`, at most `amount` of it. -/
theorem pickInOrder_eq_take (amount : ℕ) (pool : List Variable) (combo : List String) :
    pickInOrder amount pool combo [] = (firstOfEach pool combo).take amount := by
  simpa using pickInOrder_eq_append_take amount pool combo [] (Nat.zero_le _)

section

variable {σ : Type} [DrawSource σ]

/-- Filling appends variables drawn from the pool to those already placed. -/
theorem fillFromPool_eq_append (pool : List Variable) :
    ∀ (n : ℕ) (acc : List Variable) (g : σ),
      ∃ rest, (fillFromPool pool n acc g).1 = acc ++ rest ∧ ∀ y ∈ rest, y ∈ pool
  | 0, acc, g => ⟨[], by simp [fillFromPool], by simp⟩
  | n + 1, acc, g => by
      rw [fillFromPool]
      rcases hc : DrawSource.choose pool g with ⟨_ | v, g₁⟩
      · exact ⟨[], by simp, by simp⟩
      · obtain ⟨rest, hrest, hmem⟩ := fillFromPool_eq_append pool n (acc ++ [v]) g₁
        refine ⟨v :: rest, by simpa using hrest, fun y hy => ?_⟩
        rcases List.mem_cons.1 hy with rfl | hy
        · exact mem_of_choose_eq_some hc
        · exact hmem y hy

/-- From a pool that holds a variable every place is filled from the pool:
first `firstOfEach` in combination order, as far as the places go, then draws. -/
theorem placed_of_fillFromPool_pickInOrder (hidx : DrawSource.IndexBelow σ) {pool : List Variable}
    (hpool : pool ≠ []) {amount : ℕ} {combo : List String} {g g' : σ} {ordered : List Variable}
    (hfill : fillFromPool pool (amount - (pickInOrder amount pool combo []).length)
      (pickInOrder amount pool combo []) g = (ordered, g')) :
    ordered.length = amount ∧ (∀ y ∈ ordered, y ∈ pool) ∧
      ∃ rest, ordered = (firstOfEach pool combo).take amount ++ rest := by
  obtain ⟨rest, hrest, hmem⟩ :=
    fillFromPool_eq_append pool (amount - (pickInOrder amount pool combo []).length)
      (pickInOrder amount pool combo []) g
  rw [hfill, pickInOrder_eq_take] at hrest
  dsimp only at hrest
  refine ⟨length_of_fillFromPool_pickInOrder hidx hpool hfill, fun y hy => ?_, rest, hrest⟩
  rw [hrest] at hy
  rcases List.mem_append.1 hy with hy | hy
  · exact mem_of_mem_firstOfEach (List.mem_of_mem_take hy)
  · exact hmem y hy

/-- As many operators as asked are chosen, from a list that holds one when
any is asked. -/
theorem exists_chooseOperators (hidx : DrawSource.IndexBelow σ) {ops : List Operator} (n : ℕ)
    (hops : 0 < n → ops ≠ []) (g : σ) :
    ∃ l g', chooseOperators ops n g = (some l, g') ∧ l.length = n := by
  cases n with
  | zero => exact ⟨[], g, rfl, rfl⟩
  | succ n => exact chooseOperators_eq_some hidx (hops (Nat.succ_pos n)) _ g

/-- The operators chosen are listed ones. -/
theorem mem_of_chooseOperators {ops : List Operator} :
    ∀ {n : ℕ} {g g' : σ} {l : List Operator},
      chooseOperators ops n g = (some l, g') → ∀ o ∈ l, o ∈ ops
  | 0, _, _, _, h, o, ho => by
      rw [chooseOperators] at h
      cases h
      exact absurd ho List.not_mem_nil
  | n + 1, g, g', l, h, o, ho => by
      rw [chooseOperators] at h
      rcases hc : DrawSource.choose ops g with ⟨_ | op, g₁⟩
      · rw [hc] at h
        cases h
      rw [hc] at h
      dsimp only at h
      rcases hr : chooseOperators ops n g₁ with ⟨_ | rest, g₂⟩
      · rw [hr] at h
        cases h
      rw [hr] at h
      cases h
      rcases List.mem_cons.1 ho with rfl | ho
      · exact mem_of_choose_eq_some hc
      · exact mem_of_chooseOperators hr o ho

end

/-! ### The identifier form -/

/-- Texts with the operators between them, `t₁ o₁ t₂ o₂ …`; once the
operators run out the remaining texts follow one another. -/
def joinWithOperators : List String → List Operator → String
  | [], _ => ""
  | t :: ts, [] => t ++ joinWithOperators ts []
  | t :: ts, o :: os => t ++ o.symbol.toString ++ joinWithOperators ts os

/-- Texts with one operator between each two hold one operator symbol per gap
besides those of the texts. -/
theorem countP_joinWithOperators :
    ∀ (ops : List Operator) (texts : List String), texts.length = ops.length + 1 →
      (joinWithOperators texts ops).toList.countP Operator.isSymbol =
        ops.length + (texts.map fun t => t.toList.countP Operator.isSymbol).sum
  | [], [t], _ => by simp [joinWithOperators]
  | o :: os, t :: ts, hlen => by
      have hsym : Operator.isSymbol o.symbol = true := by cases o <;> rfl
      have ih := countP_joinWithOperators os ts (by simpa using hlen)
      simp only [joinWithOperators, String.toList_append, List.countP_append, ih, List.map_cons,
        List.sum_cons, List.length_cons]
      simp [hsym]
      omega
  | [], [], h | [], _ :: _ :: _, h | _ :: _, [], h => by simp at h

section

variable {σ : Type} [DrawSource σ]

/-- Each identifier of a list in turn, perhaps mutated. -/
def Mutation.applyEach (m : Mutation) (p : ℚ) :
    List Variable → σ → Except AttemptError (List String) × σ
  | [], g => (.ok [], g)
  | v :: vs, g =>
    match m.applyWith p v.identifier g with
    | (.error e, g) => (.error e, g)
    | (.ok text, g) =>
      match m.applyEach p vs g with
      | (.error e, g) => (.error e, g)
      | (.ok texts, g) => (.ok (text :: texts), g)

/-- The identifier form mutates each identifier in turn and joins the texts
with the operators. -/
theorem identifierFormWith_eq (m : Mutation) (p : ℚ) :
    ∀ (vs : List Variable) (ops : List Operator) (g : σ),
      identifierFormWith m p vs ops g =
        ((m.applyEach p vs g).1.map (joinWithOperators · ops), (m.applyEach p vs g).2)
  | [], _, _ => rfl
  | v :: vs, ops, g => by
      rw [identifierFormWith.eq_def, Mutation.applyEach]
      dsimp only
      rcases happly : m.applyWith p v.identifier g with ⟨_ | text, g₁⟩
      · rfl
      dsimp only
      rw [identifierFormWith_eq m p vs ops.tail g₁]
      rcases heach : m.applyEach p vs g₁ with ⟨_ | texts, g₂⟩
      · rfl
      · cases ops <;> simp [Except.map, joinWithOperators]

/-- An identifier form that is written is the mutated texts joined by the
operators. -/
theorem identifierFormWith_eq_ok_iff {m : Mutation} {p : ℚ} {vs : List Variable}
    {ops : List Operator} {g g' : σ} {u : String} :
    identifierFormWith m p vs ops g = (.ok u, g') ↔
      ∃ texts, m.applyEach p vs g = (.ok texts, g') ∧ u = joinWithOperators texts ops := by
  rw [identifierFormWith_eq]
  rcases m.applyEach p vs g with ⟨_ | texts, g₁⟩
  · simp [Except.map]
  · simp [Except.map, eq_comm, and_comm]

/-- An identifier the mutation does not affect is kept, and no draw is made. -/
theorem Mutation.applyWith_of_affects_eq_false {m : Mutation} {id : String}
    (h : m.affects id = false) (p : ℚ) (g : σ) : m.applyWith p id g = (.ok id, g) := by
  simp [Mutation.applyWith, h]

/-- Identifiers the mutation does not affect are all kept. -/
theorem Mutation.applyEach_of_affects_eq_false {m : Mutation} (p : ℚ) :
    ∀ {vs : List Variable}, (∀ y ∈ vs, m.affects y.identifier = false) →
      ∀ g : σ, m.applyEach p vs g = (.ok (vs.map (·.identifier)), g)
  | [], _, _ => rfl
  | v :: vs, h, g => by
      rw [Mutation.applyEach, m.applyWith_of_affects_eq_false (h v (List.mem_cons_self ..))]
      dsimp only
      rw [Mutation.applyEach_of_affects_eq_false p (fun y hy => h y (List.mem_cons_of_mem v hy))]
      rfl

/-- One text per identifier. -/
theorem Mutation.length_of_applyEach {m : Mutation} {p : ℚ} :
    ∀ {vs : List Variable} {g g' : σ} {texts : List String},
      m.applyEach p vs g = (.ok texts, g') → texts.length = vs.length
  | [], _, _, _, h => by
      cases h
      rfl
  | v :: vs, g, g', texts, h => by
      rw [Mutation.applyEach] at h
      rcases happly : m.applyWith p v.identifier g with ⟨_ | text, g₁⟩
      · rw [happly] at h
        cases h
      rw [happly] at h
      dsimp only at h
      rcases heach : m.applyEach p vs g₁ with ⟨_ | rest, g₂⟩
      · rw [heach] at h
        cases h
      rw [heach] at h
      cases h
      simp [Mutation.length_of_applyEach heach]

/-- After the coin a mutation fails only on an empty amplifier range. -/
theorem amplify_eq_error {m : Mutation} {s : String} {e e' : AttemptError} {g g' : σ}
    (h : (if m.amplifier.isEmpty = true then (Except.error e, g) else
      match DrawSource.uniformInt m.amplifier.min m.amplifier.max g with
      | (a, g) => if a = 1 then (Except.ok s, g) else (Except.ok ("(" ++ toString a ++ "*" ++ s ++ ")"), g)) =
      (.error e', g')) :
    e' = e := by
  split at h
  · cases h
    rfl
  split at h
  split at h <;> cases h

/-- A mutation fails only over its own settings: a chance outside `[0, 1]`
or an empty amplifier range. -/
theorem Mutation.applyWith_eq_error {m : Mutation} {p : ℚ} {id : String} {g g' : σ}
    {e : AttemptError} (h : m.applyWith p id g = (.error e, g')) :
    e = .inconsistent (.chanceOutside m.chance) ∨ e = .inconsistent (.emptyAmplifier m.amplifier) := by
  unfold Mutation.applyWith at h
  split at h
  · cases h
  split at h
  · cases h
    exact .inl rfl
  split at h
  split at h
  · cases h
  exact .inr (amplify_eq_error h)

/-- So does the identifier form. -/
theorem identifierFormWith_eq_error {m : Mutation} {p : ℚ} {vs : List Variable}
    {ops : List Operator} {g g' : σ} {e : AttemptError}
    (h : identifierFormWith m p vs ops g = (.error e, g')) :
    e = .inconsistent (.chanceOutside m.chance) ∨ e = .inconsistent (.emptyAmplifier m.amplifier) := by
  induction vs generalizing ops g with
  | nil => cases h
  | cons v vs ih =>
      rw [identifierFormWith.eq_def] at h
      dsimp only at h
      rcases happly : m.applyWith p v.identifier g with ⟨_ | text, g₁⟩
      · rw [happly] at h
        cases h
        exact m.applyWith_eq_error happly
      rw [happly] at h
      dsimp only at h
      rcases hrest : identifierFormWith m p vs ops.tail g₁ with ⟨_ | rest, g₂⟩
      · rw [hrest] at h
        cases h
        exact ih hrest
      rw [hrest] at h
      cases h

end

/-! ### One attempt, once its draws are made -/

section

-- the draws of one attempt, in their order: operators, combination, placements
variable {σ : Type} [DrawSource σ] [Journaled σ] {spec : EquationSpec} {vars : List Variable}
  {g g₁ g₂ g₃ : σ} {ops : List Operator} {combo : List String} {ordered : List Variable}
  (hamount : spec.selection.amount ≠ 0)
  (hops : chooseOperators spec.operators (spec.selection.amount - 1) g = (some ops, g₁))
  (hcombo : DrawSource.choose spec.selection.combos g₁ = (some combo, g₂))
  (hfill : fillFromPool (comboPool vars combo)
    (spec.selection.amount - (pickInOrder spec.selection.amount (comboPool vars combo) combo []).length)
    (pickInOrder spec.selection.amount (comboPool vars combo) combo []) g₂ = (ordered, g₃))
include hamount hops hcombo hfill

/-- Once its operators, its combination and its placements are drawn, an
attempt fails when the places do not match the operators; otherwise it fails
only where the identifier form fails or where its value form has no
acceptable value, and an equation it returns shows the identifier form and the
shown solution. -/
theorem assemble_after_draws :
    (ops.length + 1 ≠ ordered.length →
      spec.assemble vars g = (.error (.inconsistent (.operatorCount ordered.length ops.length)), g₃)) ∧
    (ops.length + 1 = ordered.length → ∀ r g', spec.assemble vars g = (r, g') →
      ∃ res g₄, identifierForm spec.mutation ordered ops g₃ = (res, g₄) ∧
        (∀ e, r = .error e → res = .error e ∨ ∃ x, e = .invalidExpression x) ∧
        ∀ e, r = .ok e → ∃ u v, res = .ok u ∧ e.identifiers = u ++ "=" ++ spec.shown v) := by
  have hfill' : fillFromPool (vars.filter fun v => combo.contains v.identifier)
      (spec.selection.amount -
        (pickInOrder spec.selection.amount (vars.filter fun v => combo.contains v.identifier)
          combo []).length)
      (pickInOrder spec.selection.amount (vars.filter fun v => combo.contains v.identifier)
        combo []) g₂ = (ordered, g₃) := hfill
  unfold EquationSpec.assemble
  dsimp only
  rw [if_neg hamount, hops]
  dsimp only
  rw [hcombo]
  dsimp only
  rw [hfill']
  dsimp only
  refine ⟨fun hcount => by rw [if_pos hcount], fun hcount r g' h => ?_⟩
  rw [if_neg (not_not.2 hcount)] at h
  rcases hres : identifierForm spec.mutation ordered ops g₃ with ⟨res, g₄⟩
  refine ⟨res, g₄, rfl, ?_⟩
  rw [hres] at h
  cases res with
  | error e' =>
      cases h
      refine ⟨fun e he => ?_, fun e he => ?_⟩ <;> cases he
      exact .inl rfl
  | ok u =>
      dsimp only at h
      split at h
      · rename_i x g₅ _
        cases h
        refine ⟨fun e he => ?_, fun e he => ?_⟩ <;> cases he
        exact .inr ⟨x, rfl⟩
      · rename_i v g₅ _
        cases h
        refine ⟨fun e he => ?_, fun e he => ?_⟩ <;> cases he
        exact ⟨u, v, rfl, rfl⟩

/-- The failure for want of variables, `operatorCount 0`, comes exactly when
no variable of the quiz is in the combination: then nothing is placed, and
otherwise every place is filled and the count checks out. -/
theorem assemble_eq_operatorCount_zero_iff (hidx : DrawSource.IndexBelow σ)
    (hlen : ops.length = spec.selection.amount - 1) :
    (spec.assemble vars g).1 = .error (.inconsistent (.operatorCount 0 (spec.selection.amount - 1))) ↔
      comboPool vars combo = [] := by
  obtain ⟨hfail, hcount⟩ := assemble_after_draws hamount hops hcombo hfill
  constructor
  · intro herr
    by_contra hpool
    have hord := length_of_fillFromPool_pickInOrder hidx hpool hfill
    rcases hr : spec.assemble vars g with ⟨r, g'⟩
    rw [hr] at herr
    obtain ⟨res, g₄, hres, herr', -⟩ := hcount (by omega) r g' hr
    rcases herr' _ herr with rfl | ⟨x, hx⟩
    · -- the identifier form fails only over the mutation's settings
      rcases identifierFormWith_eq_error hres with h | h <;> cases h
    · cases hx
  · intro hpool
    have hord : ordered = [] := by
      have h := hfill
      rw [hpool, pickInOrder_nil, fillFromPool_nil] at h
      exact (Prod.mk.inj h).1.symm
    rw [hfail (by simp [hord]), hord, hlen]
    rfl

/-- An attempt that returns an equation passed the count, and its identifier
form is the placed identifiers, each perhaps mutated, with the operators
between them; unmutated, it holds one operator symbol per gap besides those
of the identifiers. -/
theorem identifiers_of_assemble_eq_ok (hlen : ops.length = spec.selection.amount - 1)
    {e : Equation} {g' : σ} (h : spec.assemble vars g = (.ok e, g')) :
    ∃ texts g₄ v, spec.mutation.applyEach spec.mutation.chance.toRat ordered g₃ = (.ok texts, g₄) ∧
      texts.length = spec.selection.amount ∧
      e.identifiers = joinWithOperators texts ops ++ "=" ++ spec.shown v ∧
      ((∀ y ∈ ordered, spec.mutation.affects y.identifier = false) →
        texts = ordered.map (·.identifier) ∧
        (joinWithOperators texts ops).toList.countP Operator.isSymbol =
          spec.selection.amount - 1 +
            (ordered.map fun y => y.identifier.toList.countP Operator.isSymbol).sum) := by
  obtain ⟨hfail, hcount⟩ := assemble_after_draws hamount hops hcombo hfill
  -- an attempt that returns an equation passed the count
  have hc : ops.length + 1 = ordered.length := by
    by_contra hne
    rw [hfail hne] at h
    cases h
  obtain ⟨res, g₄, hres, -, hok⟩ := hcount hc _ _ h
  obtain ⟨u, v, rfl, hid⟩ := hok e rfl
  obtain ⟨texts, heach, rfl⟩ := identifierFormWith_eq_ok_iff.1 hres
  have htexts := spec.mutation.length_of_applyEach heach
  refine ⟨texts, g₄, v, heach, by omega, hid, fun hkept => ?_⟩
  have hmap : texts = ordered.map (·.identifier) := by
    rw [spec.mutation.applyEach_of_affects_eq_false _ hkept] at heach
    simp only [Prod.mk.injEq, Except.ok.injEq] at heach
    exact heach.1.symm
  refine ⟨hmap, ?_⟩
  rw [countP_joinWithOperators ops texts (by omega), hmap, hlen, List.map_map]
  rfl

end

/-! ### Where an attempt places its variables -/

/-- The words of the failure for want of variables. -/
theorem operatorCount_zero_message (k : ℕ) :
    (AttemptError.inconsistent (.operatorCount 0 k)).message =
      "Configuration inconsistency: expected 0 operands for 0 variables, got " ++ toString k := by
  unfold AttemptError.message Inconsistency.message
  -- the text before the count is fixed; the kernel reads strings slowly, so it is evaluated apart
  have hfixed : "Configuration inconsistency: " ++ ("expected " ++ toString (0 - 1) ++
      " operands for " ++ toString 0 ++ " variables, got ") =
      "Configuration inconsistency: expected 0 operands for 0 variables, got " := by
    cbv
  exact String.append_assoc.symm.trans (congrArg (· ++ toString k) hfixed)

section

variable {σ : Type} [DrawSource σ] [Journaled σ]

/-- How an attempt from `g` places its variables: `ops` are the operators it
draws, `combo` the combination it draws after them, `ordered` the variables it
places and `g₃` the state after the last placement. -/
structure EquationSpec.PlacedBy (spec : EquationSpec) (vars : List Variable) (g : σ)
    (ops : List Operator) (combo : List String) (ordered : List Variable) (g₃ : σ) : Prop where
  /-- The draws in their order: operators, combination, placements. -/
  drawn : ∃ g₁ g₂, chooseOperators spec.operators (spec.selection.amount - 1) g = (some ops, g₁) ∧
    DrawSource.choose spec.selection.combos g₁ = (some combo, g₂) ∧
    fillFromPool (comboPool vars combo)
      (spec.selection.amount - (pickInOrder spec.selection.amount (comboPool vars combo) combo []).length)
      (pickInOrder spec.selection.amount (comboPool vars combo) combo []) g₂ = (ordered, g₃)
  /-- One operator per gap between places, each a configured one. -/
  length_ops : ops.length = spec.selection.amount - 1
  mem_ops : ∀ o ∈ ops, o ∈ spec.operators
  /-- The attempt fails for want of variables exactly when no variable of the
  quiz is in the combination. -/
  noVariables_iff : (spec.assemble vars g).1 =
      .error (.inconsistent (.operatorCount 0 (spec.selection.amount - 1))) ↔ comboPool vars combo = []
  /-- Otherwise every place is filled from the pool: first in combination
  order, then by draws. -/
  placed : comboPool vars combo ≠ [] →
    ordered.length = spec.selection.amount ∧ (∀ y ∈ ordered, y ∈ comboPool vars combo) ∧
      ∃ rest, ordered = (firstOfEach (comboPool vars combo) combo).take spec.selection.amount ++ rest
  /-- An equation shows the placed identifiers, each perhaps mutated, with the
  operators between them; unmutated, with one operator symbol per gap besides
  those of the identifiers. -/
  identifiers : ∀ e g', spec.assemble vars g = (.ok e, g') →
    ∃ texts g₄ v, spec.mutation.applyEach spec.mutation.chance.toRat ordered g₃ = (.ok texts, g₄) ∧
      texts.length = spec.selection.amount ∧
      e.identifiers = joinWithOperators texts ops ++ "=" ++ spec.shown v ∧
      ((∀ y ∈ ordered, spec.mutation.affects y.identifier = false) →
        texts = ordered.map (·.identifier) ∧
        (joinWithOperators texts ops).toList.countP Operator.isSymbol =
          spec.selection.amount - 1 +
            (ordered.map fun y => y.identifier.toList.countP Operator.isSymbol).sum)

/-- For every list of variables and every source whose positions fall below
the length, an attempt with a positive count, a combination to draw and, for
two places or more, an operator to draw makes its draws and places its
variables as `PlacedBy` states; its failure for want of variables reads
`expected 0 operands for 0 variables`. -/
theorem assemble_places_combo_then_pool (hidx : DrawSource.IndexBelow σ) {spec : EquationSpec}
    (hamount : 0 < spec.selection.amount) (hcombos : spec.selection.combos ≠ [])
    (hops : 2 ≤ spec.selection.amount → spec.operators ≠ []) (vars : List Variable) (g : σ) :
    (∃ ops combo ordered g₃, spec.PlacedBy vars g ops combo ordered g₃) ∧
      (AttemptError.inconsistent (.operatorCount 0 (spec.selection.amount - 1))).message =
        "Configuration inconsistency: expected 0 operands for 0 variables, got " ++
          toString (spec.selection.amount - 1) := by
  refine ⟨?_, operatorCount_zero_message _⟩
  have hn : spec.selection.amount ≠ 0 := by omega
  -- the operators and the combination are drawn from lists that hold one
  obtain ⟨ops, g₁, hc, hlen⟩ :=
    exists_chooseOperators hidx (spec.selection.amount - 1) (fun h => hops (by omega)) g
  obtain ⟨combo, g₂, hcc⟩ := DrawSource.exists_choose_eq_some hidx hcombos g₁
  rcases hfill : fillFromPool (comboPool vars combo)
      (spec.selection.amount - (pickInOrder spec.selection.amount (comboPool vars combo) combo []).length)
      (pickInOrder spec.selection.amount (comboPool vars combo) combo []) g₂ with ⟨ordered, g₃⟩
  exact ⟨ops, combo, ordered, g₃, ⟨g₁, g₂, hc, hcc, hfill⟩, hlen, mem_of_chooseOperators hc,
    assemble_eq_operatorCount_zero_iff hn hc hcc hfill hidx hlen,
    fun hpool => placed_of_fillFromPool_pickInOrder hidx hpool hfill,
    fun _ _ h => identifiers_of_assemble_eq_ok hn hc hcc hfill hlen h⟩

end

/-- Three places, one product operator and the combination `c`, `a`, `b`. -/
def comboOrderFirst : EquationSpec where
  operators := [.mul]
  selection := ⟨3, [["c", "a", "b"]]⟩

/-- The lowest draws place `c`, `a` and `b` of the variables `a = 2`, `b = 3`,
`c = 4`. -/
theorem comboOrderFirst_placed :
    DrawSource.IndexBelow (Traced LowestDraws) ∧ 0 < comboOrderFirst.selection.amount ∧
      comboOrderFirst.selection.combos ≠ [] ∧
      (2 ≤ comboOrderFirst.selection.amount → comboOrderFirst.operators ≠ []) ∧
      (∃ ops combo ordered g₃, comboOrderFirst.PlacedBy
        [⟨"a", .ofInt 2⟩, ⟨"b", .ofInt 3⟩, ⟨"c", .ofInt 4⟩] LowestDraws.traced ops combo ordered g₃) ∧
      (AttemptError.inconsistent (.operatorCount 0 (comboOrderFirst.selection.amount - 1))).message =
        "Configuration inconsistency: expected 0 operands for 0 variables, got " ++
          toString (comboOrderFirst.selection.amount - 1) := by
  have hidx : DrawSource.IndexBelow (Traced LowestDraws) := Traced.indexBelow fun _ _ hlen => hlen
  have hcombos : comboOrderFirst.selection.combos ≠ [] := List.cons_ne_nil _ _
  have hops : 2 ≤ comboOrderFirst.selection.amount → comboOrderFirst.operators ≠ [] :=
    fun _ => List.cons_ne_nil _ _
  exact ⟨hidx, by decide, hcombos, hops,
    assemble_places_combo_then_pool hidx (by decide) hcombos hops _ _⟩

end ArithQuiz
