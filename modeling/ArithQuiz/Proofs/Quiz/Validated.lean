import Mathlib
import ArithQuiz.Proofs.Quiz.Draws
import ArithQuiz.Config.Validate

/-!
# `ArithQuiz.Proofs.Quiz.Validated`: generation under a configuration that passed the check

The check of a configuration and the generator test related settings in
different places. The check looks at the mutation chance and amplifier range
of an equation when its mutation is on; the assembler looks at them when the
mutation affects the identifier at hand, which it does only when it is on.
The check asks for known identifiers in the combinations; the assembler uses
the variables that were drawn, which may be fewer. This module shows that no
gap opens between the two: under a configuration that passes the check an
attempt fails only by the draws, never by a setting.

The check is inverted guard by guard. `Checking.bind_eq_ok` and the guard
lemmas after it take a successful run of a `do` block apart one statement at
a time, and `Config.checked_of_validate` collects what the generator relies on
in `Config.Checked`, with `EquationSpec.Checked` and `Mutation.Checked` for
each equation.

Of the source of draws one law is asked: a position is drawn below the length
of the list chosen from (`DrawSource.IndexBelow`), so a choice from a list that
holds an element never comes back empty. Then:

* `Mutation.applyWith_ne_error`: checked mutation settings never fail an
  identifier;
* `assemble_eq_error`: an attempt at a checked equation fails only on a value
  form with no acceptable value, or when none of the variables of the drawn
  combination was drawn, with the operator count `0` for `amount - 1`;
* `VariableSpec.draw_eq_error`: a draw from a range that holds an integer
  fails only on a value taken;
* `drawVariables_cons` and `Config.quizAttempt_eq_error`: the first variable
  is always drawn, so a quiz attempt fails only with variables and no
  equation.

`attempt_errors_of_validate` puts the four together.
-/

set_option autoImplicit false

namespace ArithQuiz

open ArithQuiz.Random

/-! ### The check, guard by guard -/

namespace Checking

variable {α β : Type} {x : Checking α} {f : α → Checking β} {j j' : Journal} {b : β}

/-- A sequence runs its first step, and the rest only after a success. -/
theorem run_bind (x : Checking α) (f : α → Checking β) (j : Journal) :
    (x >>= f).run.run j = match x.run.run j with
      | (.ok a, j') => (f a).run.run j'
      | (.error e, j') => (.error e, j') := by
  simp only [ExceptT.run_bind, StateT.run_bind]
  rcases x.run.run j with ⟨_ | a, j'⟩ <;> rfl

/-- A sequence that succeeds ran its first step to success. -/
theorem bind_eq_ok (h : (x >>= f).run.run j = (.ok b, j')) :
    ∃ a j₁, x.run.run j = (.ok a, j₁) ∧ (f a).run.run j₁ = (.ok b, j') := by
  rw [run_bind] at h
  rcases hx : x.run.run j with ⟨_ | a, j₁⟩
  · rw [hx] at h
    cases h
  · rw [hx] at h
    exact ⟨a, j₁, rfl, h⟩

theorem throw_bind_ne_ok {e : ConfigError} {k : Unit → Checking β} :
    (throw e >>= k).run.run j ≠ (.ok b, j') := by
  intro h
  obtain ⟨_, _, hthrow, -⟩ := bind_eq_ok h
  cases hthrow

/-- A guard that throws was passed by a check that succeeds. -/
theorem ite_throw_bind_eq_ok {c : Prop} [Decidable c] {e : ConfigError} {k : Unit → Checking β}
    (h : (if c then throw e >>= k else k ()).run.run j = (.ok b, j')) :
    ¬ c ∧ (k ()).run.run j = (.ok b, j') := by
  split at h
  · exact absurd h throw_bind_ne_ok
  · exact ⟨‹_›, h⟩

/-- The same guard as the last step of a check. -/
theorem ite_throw_eq_ok {c : Prop} [Decidable c] {e : ConfigError}
    (h : (if c then throw e else pure () : Checking Unit).run.run j = (.ok (), j')) : ¬ c := by
  intro hc
  rw [if_pos hc] at h
  cases h

/-- A warning told on the way changes only the journal the rest starts from. -/
theorem ite_bind_eq_ok {c : Prop} [Decidable c] {w : Checking Unit} {k : Unit → Checking β}
    (h : (if c then w >>= k else k ()).run.run j = (.ok b, j')) :
    ∃ j₁, (k ()).run.run j₁ = (.ok b, j') := by
  split at h
  · obtain ⟨⟨⟩, j₁, -, h⟩ := bind_eq_ok h
    exact ⟨j₁, h⟩
  · exact ⟨j, h⟩

/-- The branch a succeeding check took succeeded. -/
theorem ite_eq_ok_of_pos {c : Prop} [Decidable c] {y : Checking β} {z : Checking β}
    (h : (if c then y else z).run.run j = (.ok b, j')) (hc : c) : y.run.run j = (.ok b, j') := by
  rwa [if_pos hc] at h

/-- A loop of checks that succeeds ran each of them to success. -/
theorem forM_eq_ok {g : α → Checking Unit} :
    ∀ {l : List α} {j j' : Journal}, (l.forM g).run.run j = (.ok (), j') →
      ∀ a ∈ l, ∃ j₁ j₂, (g a).run.run j₁ = (.ok (), j₂)
  | [], _, _, _, a, ha => absurd ha List.not_mem_nil
  | y :: l, j, j', h, a, ha => by
      change (g y >>= fun _ => l.forM g).run.run j = _ at h
      obtain ⟨⟨⟩, j₁, hy, hl⟩ := bind_eq_ok h
      rcases List.mem_cons.1 ha with rfl | ha
      · exact ⟨j, j₁, hy⟩
      · exact forM_eq_ok hl a ha

/-- A loop of checks over a numbered list that succeeds ran the check of
each element, under its number, to success. -/
theorem forM_zipIdx_eq_ok {g : α × ℕ → Checking Unit} {l : List α} {n : ℕ}
    (h : ((l.zipIdx n).forM g).run.run j = (.ok (), j')) :
    ∀ a ∈ l, ∃ i j₁ j₂, (g (a, i)).run.run j₁ = (.ok (), j₂) := by
  intro a ha
  rw [← List.zipIdx_map_fst n l] at ha
  obtain ⟨⟨b, i⟩, hx, rfl⟩ := List.mem_map.1 ha
  exact ⟨i, forM_eq_ok h _ hx⟩

end Checking

/-- What a passing check guarantees of mutation settings that are on: the
chance is a probability and the amplifier range holds an integer. -/
structure Mutation.Checked (m : Mutation) : Prop where
  /-- The chance lies in `[0, 1]`. -/
  chance : m.enabled = true → isProbability m.chance = true
  /-- The amplifier range holds an integer. -/
  amplifier : m.enabled = true → m.amplifier.isEmpty = false

/-- What a passing check guarantees of an equation specification, as far as
the assembler relies on it. -/
structure EquationSpec.Checked (e : EquationSpec) : Prop where
  /-- There is an operator to choose from. -/
  operators_ne_nil : e.operators ≠ []
  /-- At least two variables, so at least one gap for an operator. -/
  two_le_amount : 2 ≤ e.selection.amount
  /-- There is a combination to choose from. -/
  combos_ne_nil : e.selection.combos ≠ []
  mutation : e.mutation.Checked

theorem EquationSpec.checked_of_check {known : List String} {n : ℕ} {e : EquationSpec}
    {j j' : Journal} (h : (e.check known n).run.run j = (.ok (), j')) : e.Checked := by
  unfold EquationSpec.check at h
  obtain ⟨hops, h⟩ := Checking.ite_throw_bind_eq_ok h
  obtain ⟨hamount, h⟩ := Checking.ite_throw_bind_eq_ok h
  obtain ⟨j₁, h⟩ := Checking.ite_bind_eq_ok h
  obtain ⟨hcombos, h⟩ := Checking.ite_throw_bind_eq_ok h
  -- the search for an unknown identifier of the combinations found none
  have hfind : List.find? (fun id => !known.contains id) e.selection.combos.flatten = none := by
    cases hf : List.find? (fun id => !known.contains id) e.selection.combos.flatten with
    | none => rfl
    | some id =>
        rw [hf] at h
        exact absurd h Checking.throw_bind_ne_ok
  rw [hfind] at h
  -- the mutation settings come after the solution range, set or not
  have hmutation : e.mutation.enabled = true →
      isProbability e.mutation.chance = true ∧ e.mutation.amplifier.isEmpty = false := by
    intro hen
    rcases hrange : e.solution.range with _ | r <;> rw [hrange] at h
    -- a solution range that is set is checked first
    on_goal 2 => replace h := (Checking.ite_throw_bind_eq_ok h).2
    all_goals
      obtain ⟨hchance, h⟩ := Checking.ite_throw_bind_eq_ok (Checking.ite_eq_ok_of_pos h hen)
      obtain ⟨-, h⟩ := Checking.ite_throw_bind_eq_ok h
      obtain ⟨hamplifier, -⟩ := Checking.ite_throw_bind_eq_ok h
      exact ⟨by simpa using hchance, by simpa using hamplifier⟩
  refine ⟨by simpa using hops, by omega, ?_,
    ⟨fun hen => (hmutation hen).1, fun hen => (hmutation hen).2⟩⟩
  simp only [Bool.or_eq_true, not_or] at hcombos
  simpa using hcombos.1

/-- What a passing check guarantees of a configuration, as far as generation
relies on it. -/
structure Config.Checked (c : Config) : Prop where
  /-- There is a variable to draw. -/
  variableSpecs_ne_nil : c.variableSpecs ≠ []
  /-- Every variable range holds an integer. -/
  range_nonempty : ∀ spec ∈ c.variableSpecs, spec.range.isEmpty = false
  equation_checked : ∀ e ∈ c.equationSpecs, e.Checked

theorem Config.checked_of_check {c : Config} {j j' : Journal}
    (h : c.check.run.run j = (.ok (), j')) : c.Checked := by
  unfold Config.check at h
  obtain ⟨⟨⟩, j₁, -, h⟩ := Checking.bind_eq_ok h
  obtain ⟨hvars, h⟩ := Checking.ite_throw_bind_eq_ok h
  obtain ⟨-, h⟩ := Checking.ite_throw_bind_eq_ok h
  obtain ⟨-, h⟩ := Checking.ite_throw_bind_eq_ok h
  obtain ⟨j₂, h⟩ := Checking.ite_bind_eq_ok h
  obtain ⟨⟨⟩, j₃, hranges, h⟩ := Checking.bind_eq_ok h
  obtain ⟨⟨⟩, j₄, hequations, -⟩ := Checking.bind_eq_ok h
  refine ⟨by simpa using hvars, fun spec hspec => ?_, fun e he => ?_⟩
  · -- the identifier check passed, then the range check
    obtain ⟨i, j₅, j₆, hi⟩ := Checking.forM_zipIdx_eq_ok hranges spec hspec
    obtain ⟨_ | ⟨⟩, j₇, -, hi⟩ := Checking.bind_eq_ok hi
    · exact absurd hi Checking.throw_bind_ne_ok
    · simpa using Checking.ite_throw_eq_ok hi
  · obtain ⟨i, j₅, j₆, hi⟩ := Checking.forM_zipIdx_eq_ok hequations e he
    exact EquationSpec.checked_of_check hi

theorem Config.checked_of_validate {c : Config} (h : c.validate = .ok ()) : c.Checked := by
  unfold Config.validate at h
  rcases hrun : c.check.run.run Journal.silent with ⟨r, j'⟩
  rw [hrun] at h
  obtain rfl : r = .ok () := h
  exact Config.checked_of_check hrun

/-! ### Choices from lists that hold an element -/

namespace Random.DrawSource

variable (σ : Type) [DrawSource σ]

/-- Positions drawn below a length that holds one fall below it. -/
def IndexBelow : Prop := ∀ (len : ℕ) (g : σ), 0 < len → (index len g).1 < len

variable {σ}

/-- Choosing from a list that holds an element chooses one. -/
theorem exists_choose_eq_some (hidx : IndexBelow σ) {α : Type} {xs : List α} (h : xs ≠ [])
    (g : σ) : ∃ x g', choose xs g = (some x, g') := by
  rcases hi : index xs.length g with ⟨i, g₁⟩
  have hlt : i < xs.length := by simpa [hi] using hidx xs.length g (List.length_pos_of_ne_nil h)
  exact ⟨xs[i], g₁, by simp [choose, h, hi]⟩

end Random.DrawSource

theorem Traced.indexBelow {σ : Type} [DrawSource σ] (h : DrawSource.IndexBelow σ) :
    DrawSource.IndexBelow (Traced σ) :=
  fun len t hlen => h len t.source hlen

section

variable {σ : Type} [DrawSource σ]

/-- Operators are chosen, as many as asked, from a list that holds one. -/
theorem chooseOperators_eq_some (hidx : DrawSource.IndexBelow σ) {ops : List Operator}
    (hops : ops ≠ []) :
    ∀ (n : ℕ) (g : σ), ∃ l g', chooseOperators ops n g = (some l, g') ∧ l.length = n
  | 0, g => ⟨[], g, rfl, rfl⟩
  | n + 1, g => by
      obtain ⟨op, g₁, hc⟩ := DrawSource.exists_choose_eq_some hidx hops g
      obtain ⟨l, g₂, hr, hlen⟩ := chooseOperators_eq_some hidx hops n g₁
      refine ⟨op :: l, g₂, ?_, by simp [hlen]⟩
      rw [chooseOperators, hc]
      simp only [hr]

/-- At most `amount` variables are picked in combination order. -/
theorem length_pickInOrder_le (amount : ℕ) (pool : List Variable) :
    ∀ (ids : List String) (acc : List Variable), acc.length ≤ amount →
      (pickInOrder amount pool ids acc).length ≤ amount
  | [], _, h => h
  | id :: ids, acc, h => by
      rw [pickInOrder]
      split
      · exact h
      rename_i hfull
      split
      · exact length_pickInOrder_le amount pool ids _ (by simp; omega)
      · exact length_pickInOrder_le amount pool ids acc h

/-- From an empty pool nothing is picked. -/
theorem pickInOrder_nil (amount : ℕ) :
    ∀ (ids : List String) (acc : List Variable), pickInOrder amount [] ids acc = acc
  | [], _ => rfl
  | id :: ids, acc => by
      rw [pickInOrder]
      split
      · rfl
      · exact pickInOrder_nil amount ids acc

/-- From a pool that holds a variable, the count asked for is added. -/
theorem length_fillFromPool (hidx : DrawSource.IndexBelow σ) {pool : List Variable}
    (hpool : pool ≠ []) :
    ∀ (n : ℕ) (acc : List Variable) (g : σ), (fillFromPool pool n acc g).1.length = acc.length + n
  | 0, _, _ => rfl
  | n + 1, acc, g => by
      obtain ⟨v, g₁, hc⟩ := DrawSource.exists_choose_eq_some hidx hpool g
      rw [fillFromPool, hc]
      simp only [length_fillFromPool hidx hpool n, List.length_append, List.length_singleton]
      omega

/-- From a pool that holds a variable every place is filled: the picks in
combination order, then draws from the pool up to the count. -/
theorem length_of_fillFromPool_pickInOrder (hidx : DrawSource.IndexBelow σ) {pool : List Variable}
    (hpool : pool ≠ []) {amount : ℕ} {combo : List String} {g g' : σ} {ordered : List Variable}
    (h : fillFromPool pool (amount - (pickInOrder amount pool combo []).length)
      (pickInOrder amount pool combo []) g = (ordered, g')) :
    ordered.length = amount := by
  have hfirst := length_pickInOrder_le amount pool combo [] (Nat.zero_le _)
  have hfilled := length_fillFromPool hidx hpool
    (amount - (pickInOrder amount pool combo []).length) (pickInOrder amount pool combo []) g
  rw [h] at hfilled
  dsimp only at hfilled
  omega

/-- From an empty pool nothing is added. -/
theorem fillFromPool_nil : ∀ (n : ℕ) (acc : List Variable) (g : σ), fillFromPool [] n acc g = (acc, g)
  | 0, _, _ => rfl
  | _ + 1, _, _ => rfl

/-! ### Mutations whose settings passed the check -/

/-- Mutation settings that passed the check never fail an identifier: only a
mutation that is on affects one, and then its chance and amplifier range were
checked. -/
theorem Mutation.applyWith_ne_error {m : Mutation} (hm : m.Checked) (id : String) (g g' : σ)
    (e : AttemptError) : m.applyWith m.chance.toRat id g ≠ (.error e, g') := by
  intro h
  unfold Mutation.applyWith at h
  split at h
  · cases h
  rename_i haffects
  -- only a mutation that is on affects an identifier
  have hen : m.enabled = true := by
    simp only [Mutation.affects, Bool.not_eq_true', Bool.not_eq_false, Bool.and_eq_true] at haffects
    exact haffects.1
  -- so its chance was checked to be a probability
  split at h
  · rename_i hchance
    have hp := hm.chance hen
    unfold isProbability at hp
    rw [hp] at hchance
    cases hchance
  split at h
  split at h
  · cases h
  -- the coin came up: the amplifier range holds an integer, so a factor is drawn
  simp only [hm.amplifier hen, Bool.false_eq_true, if_false] at h
  split at h <;> cases h

/-- Nor does the identifier form under such settings. -/
theorem identifierFormWith_ne_error {m : Mutation} (hm : m.Checked) :
    ∀ (vs : List Variable) (ops : List Operator) (g g' : σ) (e : AttemptError),
      identifierFormWith m m.chance.toRat vs ops g ≠ (.error e, g')
  | [], _, _, _, _ => by simp [identifierFormWith]
  | v :: vs, ops, g, g', e => by
      intro h
      rw [identifierFormWith.eq_def] at h
      dsimp only at h
      split at h
      · rename_i happly
        exact Mutation.applyWith_ne_error hm _ _ _ _ happly
      split at h
      · rename_i hrest
        exact identifierFormWith_ne_error hm vs _ _ _ _ hrest
      · cases h

/-! ### One attempt at an equation -/

/-- An attempt at an equation whose specification passed the check fails in
two ways only: its value form has no acceptable value, or no variable of the
drawn combination was drawn, so that no variable is placed at all. -/
theorem assemble_eq_error [Journaled σ] (hidx : DrawSource.IndexBelow σ) {spec : EquationSpec}
    (hspec : spec.Checked) {vars : List Variable} {g g' : σ} {e : AttemptError}
    (h : spec.assemble vars g = (.error e, g')) :
    (∃ x, e = .invalidExpression x) ∨
      ∃ combo, (DrawSource.choose spec.selection.combos
          (chooseOperators spec.operators (spec.selection.amount - 1) g).2).1 = some combo ∧
        e = .inconsistent (.operatorCount 0 (spec.selection.amount - 1)) ∧
        ∀ y ∈ vars, y.identifier ∉ combo := by
  have hamount := hspec.two_le_amount
  unfold EquationSpec.assemble at h
  dsimp only at h
  rw [if_neg (by omega)] at h
  -- the operators and the combination are drawn from lists that hold one
  obtain ⟨ops, g₀, hc, hlen⟩ :=
    chooseOperators_eq_some hidx hspec.operators_ne_nil (spec.selection.amount - 1) g
  obtain ⟨combo, g₁, hcc⟩ := DrawSource.exists_choose_eq_some hidx hspec.combos_ne_nil g₀
  rw [hc] at h
  dsimp only at h
  rw [hcc] at h
  dsimp only at h
  generalize hfill : fillFromPool _ _ _ g₁ = res at h
  obtain ⟨ordered, g₂⟩ := res
  dsimp only at h
  split at h
  · rename_i hcount
    cases h
    -- a pool that holds a variable fills every place, so the pool is empty
    have hpool : vars.filter (fun v => combo.contains v.identifier) = [] := by
      by_contra hpool
      have hfilled := length_of_fillFromPool_pickInOrder hidx hpool hfill
      omega
    rw [hpool, pickInOrder_nil, fillFromPool_nil] at hfill
    cases hfill
    refine .inr ⟨combo, by rw [hc, hcc], by rw [hlen]; rfl, fun y hy hmem => ?_⟩
    have hy' : y ∈ vars.filter (fun v => combo.contains v.identifier) :=
      List.mem_filter.2 ⟨hy, by simpa using hmem⟩
    rw [hpool] at hy'
    exact List.not_mem_nil hy'
  split at h
  · rename_i hform
    exact absurd hform (identifierFormWith_ne_error hspec.mutation _ _ _ _ _)
  split at h
  · cases h
    exact .inl ⟨_, rfl⟩
  · cases h

/-! ### Variables and quizzes -/

/-- A draw for a specification whose range holds an integer fails only on a
value taken before. -/
theorem VariableSpec.draw_eq_error {spec : VariableSpec} (hrange : spec.range.isEmpty = false)
    {taken : List Variable} {g g' : σ} {e : AttemptError} (h : spec.draw taken g = (.error e, g')) :
    ∃ v, e = .valueTaken spec.identifier v := by
  rcases hd : DrawSource.uniformInt spec.range.min spec.range.max g with ⟨n, g₁⟩
  rw [VariableSpec.draw_of_not_isEmpty hrange taken hd] at h
  split at h
  · cases h
    exact ⟨_, rfl⟩
  · cases h

variable [Journaled σ]

/-- The first specification, when its range holds an integer, always gets a
variable: nothing is taken before it, so its first draw is kept. -/
theorem drawVariables_cons {spec : VariableSpec} (hrange : spec.range.isEmpty = false)
    (specs : List VariableSpec) (g : σ) :
    ∃ v rest, (drawVariables (spec :: specs) g).1 = ⟨spec.identifier, v⟩ :: rest := by
  rcases hd : DrawSource.uniformInt spec.range.min spec.range.max g with ⟨n, g₁⟩
  have hdraw : spec.draw [] g = (.ok (.ofInt n), g₁) := by
    rw [VariableSpec.draw_of_not_isEmpty hrange [] hd, if_neg (by simp)]
  have hretry : retry "Variable" (spec.draw []) attemptLimit g = (some (.ofInt n), g₁) := by
    -- the first of the `attemptLimit` attempts
    show retryFrom "Variable" attemptLimit (spec.draw []) 1 (99 + 1) g = _
    rw [retryFrom, hdraw]
  obtain ⟨kept, hkept⟩ := exists_drawVariablesFrom_eq_append specs [⟨spec.identifier, .ofInt n⟩] g₁
  refine ⟨.ofInt n, kept, ?_⟩
  rw [drawVariables, drawVariablesFrom, hretry]
  simpa using hkept

/-- A quiz attempt that fails has drawn variables, and assembled no equation
from them. -/
theorem Config.quizAttempt_eq_error {c : Config}
    (hvars : ∀ g : σ, (drawVariables c.variableSpecs g).1 ≠ []) {g g' : σ} {e : AttemptError}
    (h : c.quizAttempt g = (.error e, g')) : ∃ k, 0 < k ∧ e = .incompleteQuiz k 0 := by
  unfold Config.quizAttempt at h
  generalize hd : drawVariables c.variableSpecs g = d at h
  obtain ⟨vars, g₁⟩ := d
  dsimp only at h
  split at h
  · rename_i hempty
    have := hvars g
    rw [hd] at this
    exact absurd (List.isEmpty_iff.1 hempty) this
  rename_i hnonempty
  generalize assembleAll vars 1 c.equationSpecs g₁ = a at h
  obtain ⟨eqs, g₂⟩ := a
  dsimp only at h
  split at h
  · cases h
    refine ⟨vars.length, List.length_pos_of_ne_nil ?_, rfl⟩
    simpa using hnonempty
  · cases h

end

/-! ### Generation under a configuration that passed the check -/

/-- Under a configuration that passes the check, an attempt fails only by the
draws, never by a setting: a variable's draw only on a value taken; an
equation's attempt only on a value form with no acceptable value or on a drawn
combination none of whose variables was drawn; and a quiz attempt, since the
first variable is always drawn, only with variables and no equation. The
source is asked one law: positions are drawn below the length of the list
chosen from. -/
theorem attempt_errors_of_validate {σ : Type} [DrawSource σ] [Journaled σ]
    (hidx : DrawSource.IndexBelow σ) {c : Config} (hc : c.validate = .ok ()) :
    (∀ spec ∈ c.variableSpecs, ∀ (taken : List Variable) (g g' : σ) (e : AttemptError),
      spec.draw taken g = (.error e, g') → ∃ v, e = .valueTaken spec.identifier v) ∧
    (∀ spec ∈ c.equationSpecs, ∀ (vars : List Variable) (g g' : σ) (e : AttemptError),
      spec.assemble vars g = (.error e, g') → (∃ x, e = .invalidExpression x) ∨
        ∃ combo, (DrawSource.choose spec.selection.combos
            (chooseOperators spec.operators (spec.selection.amount - 1) g).2).1 = some combo ∧
          e = .inconsistent (.operatorCount 0 (spec.selection.amount - 1)) ∧
          ∀ y ∈ vars, y.identifier ∉ combo) ∧
    (∀ g : σ, ∃ spec specs v rest, c.variableSpecs = spec :: specs ∧
      (drawVariables c.variableSpecs g).1 = ⟨spec.identifier, v⟩ :: rest) ∧
    ∀ (g g' : σ) (e : AttemptError), c.quizAttempt g = (.error e, g') →
      ∃ k, 0 < k ∧ e = .incompleteQuiz k 0 := by
  have hchecked := Config.checked_of_validate hc
  have hfirst : ∀ g : σ, ∃ spec specs v rest, c.variableSpecs = spec :: specs ∧
      (drawVariables c.variableSpecs g).1 = ⟨spec.identifier, v⟩ :: rest := by
    intro g
    obtain ⟨spec, specs, hspecs⟩ := List.exists_cons_of_ne_nil hchecked.variableSpecs_ne_nil
    obtain ⟨v, rest, hdrawn⟩ :=
      drawVariables_cons (hchecked.range_nonempty spec (by simp [hspecs])) specs g
    exact ⟨spec, specs, v, rest, hspecs, by rw [hspecs, hdrawn]⟩
  refine ⟨fun spec hspec _ _ _ _ h => VariableSpec.draw_eq_error (hchecked.range_nonempty spec hspec) h,
    fun spec hspec _ _ _ _ h => assemble_eq_error hidx (hchecked.equation_checked spec hspec) h,
    hfirst, fun _ _ _ h => Config.quizAttempt_eq_error (fun g => ?_) h⟩
  obtain ⟨_, _, v, rest, -, hdrawn⟩ := hfirst g
  rw [hdrawn]
  exact List.cons_ne_nil _ _

theorem sumOfTwo_draws_first_variable :
    DrawSource.IndexBelow (Traced LowestDraws) ∧ sumOfTwo.validate = .ok () ∧
      ∃ spec specs v rest, sumOfTwo.variableSpecs = spec :: specs ∧
        (drawVariables sumOfTwo.variableSpecs LowestDraws.traced).1 = ⟨spec.identifier, v⟩ :: rest := by
  have hidx : DrawSource.IndexBelow (Traced LowestDraws) := Traced.indexBelow fun _ _ hlen => hlen
  have hvalid : sumOfTwo.validate = .ok () := rfl
  exact ⟨hidx, hvalid, (attempt_errors_of_validate hidx hvalid).2.2.1 LowestDraws.traced⟩

end ArithQuiz
