import Mathlib
import ArithQuiz.Proofs.Quiz.Validated

/-!
# `ArithQuiz.Proofs.Quiz.Preconditions`: every draw is asked within its precondition

The sampler behind generation panics on two requests: an integer of an empty
range, and a coin whose probability lies outside `[0, 1]`; and a position is
drawn only below the length of a list that holds an element. The generator
tests each condition before the draw that needs it: a variable's range before
its value is drawn, the mutation chance before the coin, the amplifier range
before the amplifier, and `choose` the length of its list before the position.
The tests sit in different functions, between other draws, and some settings
are never checked by the configuration check (a mutation that is off may
still name identifiers, and its chance and range are then unchecked). This
file shows that no configuration, checked or not, gets a draw past them.

A `Watched` source runs any source of draws and marks a request outside the
preconditions (`Watched.misused`). A step is `Careful` when it leaves the
mark as it found it. Each draw asked within its precondition is careful, and
so is every function of the generator, one lemma each, by induction along the
function's own recursion:

* `careful_choose`: a choice draws a position only from a list that holds an
  element;
* `Mutation.applyWith_careful`: the coin is thrown only after the chance
  passed, the amplifier drawn only after its range did;
* `VariableSpec.draw_careful`: a value is drawn only from a range that holds
  one;
* `retryFrom_careful`: attempts that are careful make a careful loop.

The main statement is `quizzes_draw_within_preconditions`: from any source,
with the mark off, a whole run of generation ends with the mark off.
-/

set_option autoImplicit false

namespace ArithQuiz

namespace Random

/-- A source of draws that marks a request the sampler refuses: an integer of
an empty range, a position below length zero, or a coin whose probability lies
outside `[0, 1]`. -/
structure Watched (σ : Type) where
  /-- The source the draws come from. -/
  source : σ
  /-- Whether a draw was asked outside its precondition. -/
  misused : Bool

namespace Watched

variable {σ : Type}

instance [DrawSource σ] : DrawSource (Watched σ) where
  uniformInt lo hi w :=
    let (n, g) := DrawSource.uniformInt lo hi w.source
    (n, ⟨g, w.misused || decide (hi < lo)⟩)
  index len w :=
    let (i, g) := DrawSource.index len w.source
    (i, ⟨g, w.misused || len == 0⟩)
  bernoulli p w :=
    let (b, g) := DrawSource.bernoulli p w.source
    (b, ⟨g, w.misused || !(decide (0 ≤ p) && decide (p ≤ 1))⟩)

/-- The journal is the source's. -/
instance [Journaled σ] : Journaled (Watched σ) :=
  ⟨fun w => Journaled.journal w.source, fun w j => { w with source := Journaled.withJournal w.source j }⟩

/-- A step that leaves the mark as it found it: it asks no draw outside its
precondition. -/
def Careful {α : Type} (step : Watched σ → α × Watched σ) : Prop :=
  ∀ w, (step w).2.misused = w.misused

/-- The state after a careful step carries the mark of the state before. -/
theorem Careful.misused_eq {α : Type} {step : Watched σ → α × Watched σ} (h : Careful step)
    {w w' : Watched σ} {a : α} (he : step w = (a, w')) : w'.misused = w.misused := by
  rw [← h w, he]

variable [DrawSource σ]

theorem careful_uniformInt {lo hi : ℤ} (h : lo ≤ hi) :
    Careful (DrawSource.uniformInt lo hi : Watched σ → ℤ × Watched σ) := fun w => by
  show (w.misused || decide (hi < lo)) = w.misused
  simp [not_lt.2 h]

theorem careful_index {len : ℕ} (h : 0 < len) :
    Careful (DrawSource.index len : Watched σ → ℕ × Watched σ) := fun w => by
  show (w.misused || len == 0) = w.misused
  simp [Nat.pos_iff_ne_zero.1 h]

theorem careful_bernoulli {p : ℚ} (h : 0 ≤ p ∧ p ≤ 1) :
    Careful (DrawSource.bernoulli p : Watched σ → Bool × Watched σ) := fun w => by
  show (w.misused || !(decide (0 ≤ p) && decide (p ≤ 1))) = w.misused
  simp [h.1, h.2]

/-- A choice draws a position only from a list that holds an element. -/
theorem careful_choose {α : Type} (xs : List α) :
    Careful (DrawSource.choose xs : Watched σ → Option α × Watched σ) := fun w => by
  unfold DrawSource.choose
  split
  · rfl
  · rename_i hne
    exact careful_index (List.length_pos_of_ne_nil (by simpa using hne)) w

omit [DrawSource σ]

variable [Journaled σ]

/-- Telling in the journal draws nothing. -/
@[simp] theorem misused_note (w : Watched σ) (l : Level) (text : Unit → String) :
    (Journaled.note w l text).misused = w.misused := by
  unfold Journaled.note
  split <;> rfl

/-- A step on the journal draws nothing. -/
theorem careful_along {α : Type} (step : StateM Journal α) :
    Careful (Journaled.along step : Watched σ → α × Watched σ) := fun _ => rfl

end Watched

end Random

open ArithQuiz.Random ArithQuiz.Random.Watched

section

variable {σ : Type} [DrawSource σ]

/-- Operators are chosen only from lists that hold one. -/
theorem chooseOperators_careful (ops : List Operator) :
    ∀ n, Careful (chooseOperators ops n : Watched σ → Option (List Operator) × Watched σ)
  | 0, w => rfl
  | n + 1, w => by
      rw [chooseOperators]
      rcases hc : DrawSource.choose ops w with ⟨_ | op, w₁⟩
      · exact (careful_choose ops).misused_eq hc
      · dsimp only
        -- the rest of the operators come from the state after the first choice
        rcases hr : chooseOperators ops n w₁ with ⟨_ | rest, w₂⟩ <;>
          exact ((chooseOperators_careful ops n).misused_eq hr).trans
            ((careful_choose ops).misused_eq hc)

/-- The pool is chosen from only while it holds a variable. -/
theorem fillFromPool_careful (pool : List Variable) :
    ∀ (n : ℕ) (acc : List Variable),
      Careful (fillFromPool pool n acc : Watched σ → List Variable × Watched σ)
  | 0, _, w => rfl
  | n + 1, acc, w => by
      rw [fillFromPool]
      rcases hc : DrawSource.choose pool w with ⟨_ | v, w₁⟩
      · exact (careful_choose pool).misused_eq hc
      · exact (fillFromPool_careful pool n _ w₁).trans ((careful_choose pool).misused_eq hc)

/-- A mutation throws its coin only after the chance passed its test, and
draws its amplifier only after the range did. -/
theorem Mutation.applyWith_careful (m : Mutation) (p : ℚ) (id : String) :
    Careful (m.applyWith p id : Watched σ → Except AttemptError String × Watched σ) := by
  intro w
  unfold Mutation.applyWith
  split
  · rfl
  split
  · rfl
  rename_i hchance
  -- the chance is a probability here
  have hp : 0 ≤ p ∧ p ≤ 1 := by simpa using hchance
  rcases hb : DrawSource.bernoulli p w with ⟨hit, w₁⟩
  have hcoin := (careful_bernoulli hp).misused_eq hb
  dsimp only
  split
  · exact hcoin
  split
  · exact hcoin
  rename_i hrange
  -- the amplifier range holds an integer here
  have hle : m.amplifier.min ≤ m.amplifier.max := by
    simpa [Interval.isEmpty] using hrange
  rcases ha : DrawSource.uniformInt m.amplifier.min m.amplifier.max w₁ with ⟨a, w₂⟩
  dsimp only
  split <;> exact ((careful_uniformInt hle).misused_eq ha).trans hcoin

/-- The identifier form mutates each identifier in turn. -/
theorem identifierFormWith_careful (m : Mutation) (p : ℚ) :
    ∀ (vs : List Variable) (ops : List Operator),
      Careful (identifierFormWith m p vs ops : Watched σ → Except AttemptError String × Watched σ)
  | [], _, w => rfl
  | v :: vs, ops, w => by
      rw [identifierFormWith.eq_def]
      dsimp only
      rcases hm : m.applyWith p v.identifier w with ⟨_ | text, w₁⟩
      · exact (m.applyWith_careful p v.identifier).misused_eq hm
      · dsimp only
        rcases hr : identifierFormWith m p vs ops.tail w₁ with ⟨_ | rest, w₂⟩ <;>
          exact ((identifierFormWith_careful m p vs ops.tail).misused_eq hr).trans
            ((m.applyWith_careful p v.identifier).misused_eq hm)

variable [Journaled σ]

/-- One attempt at an equation: operators, a combination, the pool, the
mutations; telling and solving draw nothing. -/
theorem EquationSpec.assemble_careful (spec : EquationSpec) (vars : List Variable) :
    Careful (spec.assemble vars : Watched σ → Except AttemptError Equation × Watched σ) := by
  intro w
  unfold EquationSpec.assemble
  dsimp only
  split
  · rfl
  rcases ho : chooseOperators spec.operators (spec.selection.amount - 1) w with ⟨_ | ops, w₁⟩
  · exact (chooseOperators_careful _ _).misused_eq ho
  have hops := (chooseOperators_careful _ _).misused_eq ho
  dsimp only
  rcases hc : DrawSource.choose spec.selection.combos w₁ with ⟨_ | combo, w₂⟩
  · exact ((careful_choose _).misused_eq hc).trans hops
  have hcombo := (careful_choose _).misused_eq hc
  dsimp only
  generalize vars.filter (fun v => combo.contains v.identifier) = pool
  rcases hf : fillFromPool pool
    (spec.selection.amount - (pickInOrder spec.selection.amount pool combo []).length)
    (pickInOrder spec.selection.amount pool combo []) w₂ with ⟨ordered, w₃⟩
  -- the draws so far left the mark as it was
  have hsofar : w₃.misused = w.misused :=
    ((fillFromPool_careful _ _ _).misused_eq hf).trans (hcombo.trans hops)
  dsimp only
  split
  · exact hsofar
  rcases hu : identifierForm spec.mutation ordered ops w₃ with ⟨_ | u, w₄⟩
  · exact ((identifierFormWith_careful _ _ _ _).misused_eq hu).trans hsofar
  have hform := (identifierFormWith_careful _ _ _ _).misused_eq hu
  dsimp only
  -- what is left tells and solves, which leaves the mark alone
  split <;>
  · rename_i hsolve
    exact ((careful_along _).misused_eq hsolve).trans
      ((misused_note _ _ _).trans (hform.trans hsofar))

omit [DrawSource σ] in
/-- A run of careful attempts is careful. -/
theorem retryFrom_careful {α : Type} {attempt : Watched σ → Except AttemptError α × Watched σ}
    (h : Careful attempt) (unit : String) (limit : ℕ) :
    ∀ number left, Careful (retryFrom unit limit attempt number left)
  | _, 0, w => rfl
  | number, left + 1, w => by
      rw [retryFrom]
      rcases ha : attempt w with ⟨_ | a, w₁⟩
      · -- a failed attempt is told, and the next attempts follow
        exact (retryFrom_careful h unit limit (number + 1) left _).trans
          ((misused_note _ _ _).trans (h.misused_eq ha))
      · exact h.misused_eq ha

omit [DrawSource σ] in
/-- So is a retried attempt, which runs from the first attempt on. -/
theorem retry_careful {α : Type} {attempt : Watched σ → Except AttemptError α × Watched σ}
    (h : Careful attempt) (unit : String) (limit : ℕ) : Careful (retry unit attempt limit) :=
  retryFrom_careful h unit limit 1 limit

omit [Journaled σ] in
/-- A variable's value is drawn only from a range that holds one. -/
theorem VariableSpec.draw_careful (spec : VariableSpec) (taken : List Variable) :
    Careful (spec.draw taken : Watched σ → Except AttemptError Decimal × Watched σ) := by
  intro w
  cases hempty : spec.range.isEmpty with
  | true => rw [VariableSpec.draw_of_isEmpty hempty]
  | false =>
      rcases hd : DrawSource.uniformInt spec.range.min spec.range.max w with ⟨n, w₁⟩
      rw [VariableSpec.draw_of_not_isEmpty hempty taken hd]
      split <;>
        exact (careful_uniformInt ((Interval.isEmpty_eq_false_iff _).1 hempty)).misused_eq hd

/-- The variables are drawn carefully, one specification after another. -/
theorem drawVariablesFrom_careful :
    ∀ (taken : List Variable) (specs : List VariableSpec),
      Careful (drawVariablesFrom taken specs : Watched σ → List Variable × Watched σ)
  | _, [], w => rfl
  | taken, spec :: specs, w => by
      have hretry : Careful (retry "Variable" (spec.draw taken) attemptLimit :
          Watched σ → Option Decimal × Watched σ) :=
        retry_careful (spec.draw_careful taken) "Variable" attemptLimit
      rw [drawVariablesFrom]
      rcases hr : retry "Variable" (spec.draw taken) attemptLimit w with ⟨_ | v, w₁⟩
      · exact (drawVariablesFrom_careful taken specs _).trans
          ((misused_note _ _ _).trans (hretry.misused_eq hr))
      · exact (drawVariablesFrom_careful _ specs w₁).trans (hretry.misused_eq hr)

theorem drawVariables_careful (specs : List VariableSpec) :
    Careful (drawVariables specs : Watched σ → List Variable × Watched σ) :=
  drawVariablesFrom_careful [] specs

/-- The equations are assembled carefully, one specification after another. -/
theorem assembleAll_careful (vars : List Variable) :
    ∀ (n : ℕ) (specs : List EquationSpec),
      Careful (assembleAll vars n specs : Watched σ → List Equation × Watched σ)
  | _, [], w => rfl
  | n, spec :: specs, w => by
      have hretry : Careful (retry "Equation" (spec.assemble vars) attemptLimit :
          Watched σ → Option Equation × Watched σ) :=
        retry_careful (spec.assemble_careful vars) "Equation" attemptLimit
      simp only [assembleAll]
      rcases hr : retry "Equation" (spec.assemble vars) attemptLimit w with ⟨_ | e, w₁⟩
      · exact (assembleAll_careful vars (n + 1) specs _).trans
          ((misused_note _ _ _).trans (hretry.misused_eq hr))
      · exact (assembleAll_careful vars (n + 1) specs w₁).trans (hretry.misused_eq hr)

/-- One attempt at a quiz: variables, then equations. -/
theorem Config.quizAttempt_careful (c : Config) :
    Careful (c.quizAttempt : Watched σ → Except AttemptError Quiz × Watched σ) := by
  intro w
  unfold Config.quizAttempt
  rcases hd : drawVariables c.variableSpecs w with ⟨vars, w₁⟩
  have hvars := (drawVariables_careful _).misused_eq hd
  dsimp only
  split
  · exact hvars
  rcases ha : assembleAll vars 1 c.equationSpecs w₁ with ⟨eqs, w₂⟩
  have heqs := (assembleAll_careful _ _ _).misused_eq ha
  dsimp only
  split
  · exact heqs.trans hvars
  · rw [misused_note]
    exact heqs.trans hvars

/-- The quizzes of the numbers left are made carefully, one number after
another. -/
theorem Config.quizzesFrom_careful (c : Config) :
    ∀ number left, Careful (c.quizzesFrom number left : Watched σ → List Quiz × Watched σ)
  | _, 0, w => rfl
  | number, left + 1, w => by
      have hretry : Careful (retry "Quiz" c.quizAttempt attemptLimit :
          Watched σ → Option Quiz × Watched σ) :=
        retry_careful c.quizAttempt_careful "Quiz" attemptLimit
      simp only [Config.quizzesFrom]
      rcases hr : retry "Quiz" c.quizAttempt attemptLimit w with ⟨_ | q, w₁⟩
      · exact (c.quizzesFrom_careful (number + 1) left _).trans
          ((misused_note _ _ _).trans (hretry.misused_eq hr))
      · exact (c.quizzesFrom_careful (number + 1) left w₁).trans (hretry.misused_eq hr)

/-- A whole run: it tells before and after, and in between makes the
quizzes of the numbers. -/
theorem Config.quizzes_careful (c : Config) :
    Careful (c.quizzes : Watched σ → List Quiz × Watched σ) := by
  intro w
  unfold Config.quizzes
  dsimp only
  rw [misused_note]
  exact (c.quizzesFrom_careful 1 c.quiz.amount _).trans (misused_note _ _ _)

end

/-- Generation never asks the sampler for a draw outside its precondition:
for every configuration, checked or not, and every source of draws, a run
that starts with the mark off ends with it off. No integer is drawn from an
empty range, no coin is thrown with a probability outside `[0, 1]`, and no
position is drawn below length zero. -/
theorem quizzes_draw_within_preconditions {σ : Type} [DrawSource σ] [Journaled σ] (c : Config) (g : σ) :
    (c.quizzes (⟨g, false⟩ : Watched σ)).2.misused = false :=
  c.quizzes_careful ⟨g, false⟩

end ArithQuiz
