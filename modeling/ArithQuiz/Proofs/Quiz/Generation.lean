import Mathlib
import ArithQuiz.Proofs.Quiz.Assembly

/-!
# `ArithQuiz.Proofs.Quiz.Generation`: what a run of generation returns

Generation nests three loops of bounded attempts: quizzes, and in each quiz
the variables and then the equations, one after another. Whatever the source
of draws, each loop returns only what some attempt returned, and leaves out
what failed; so the run is described by what one attempt of each kind can
return.

* `retry_eq_some`: a value that a run of attempts returns, one attempt
  returned;
* `assembleAll_sublistForall₂`: the equations of a quiz come, in order, from
  distinct equation specifications, each assembled by one attempt;
* `quizAttempt_eq_ok`: a quiz holds the drawn variables, at least one, and
  the equations assembled from them, at least one;
* `quizzesFrom_sound`: no more quizzes than numbers, each from one attempt.

The main statement is `quizzes_assembled`: every equation of every quiz is
`Assembled` from the quiz's variables, by the specification it comes from.
Its token-mode part asks that no identifier hold an `=`:
`quizzes_token_negative_after_equals` is a run where one does, and a negative
value reaches the value form unchecked.
-/

set_option autoImplicit false

namespace ArithQuiz

open ArithQuiz.Random

/-! ### Attempts -/

section

variable {σ : Type} [Journaled σ]

/-- A value that a run of attempts returns, one of the attempts returned. -/
theorem retryFrom_eq_some {α : Type} {unit : String} {limit : ℕ}
    {attempt : σ → Except AttemptError α × σ} :
    ∀ {number left : ℕ} {g g' : σ} {a : α},
      retryFrom unit limit attempt number left g = (some a, g') → ∃ g₀ g₁, attempt g₀ = (.ok a, g₁)
  | _, 0, _, _, _, h => by simp [retryFrom] at h
  | number, left + 1, g, g', a, h => by
      rw [retryFrom] at h
      split at h
      · rename_i a' g₁ hok
        obtain rfl : a' = a := Option.some.inj (Prod.mk.inj h).1
        exact ⟨g, g₁, hok⟩
      · exact retryFrom_eq_some h

theorem retry_eq_some {α : Type} {unit : String} {attempt : σ → Except AttemptError α × σ}
    {limit : ℕ} {g g' : σ} {a : α} (h : retry unit attempt limit g = (some a, g')) :
    ∃ g₀ g₁, attempt g₀ = (.ok a, g₁) :=
  retryFrom_eq_some h

end

/-! ### Variables -/

section

variable {σ : Type} [DrawSource σ] [Journaled σ]

omit [Journaled σ] in
/-- A drawn value is an integer. -/
theorem VariableSpec.draw_eq_ok {spec : VariableSpec} {taken : List Variable} {g g' : σ}
    {v : Decimal} (h : spec.draw taken g = (.ok v, g')) : ∃ n : ℤ, v = Decimal.ofInt n := by
  unfold VariableSpec.draw at h
  split at h
  · cases h
  generalize DrawSource.uniformInt spec.range.min spec.range.max g = r at h
  obtain ⟨n, g₁⟩ := r
  dsimp only at h
  split at h
  · cases h
  · exact ⟨n, (Except.ok.inj (Prod.mk.inj h).1).symm⟩

/-- Variables drawn after variables with integer values have integer values. -/
theorem drawVariablesFrom_whole :
    ∀ (taken : List Variable) (specs : List VariableSpec) (g : σ),
      (∀ y ∈ taken, ∃ n : ℤ, y.value = Decimal.ofInt n) →
      ∀ y ∈ (drawVariablesFrom taken specs g).1, ∃ n : ℤ, y.value = Decimal.ofInt n
  | taken, [], g, htaken => by
      rw [drawVariablesFrom]
      exact htaken
  | taken, spec :: specs, g, htaken => by
      rw [drawVariablesFrom]
      split
      · rename_i v g₁ hr
        -- the accepted value joins the values already taken
        refine drawVariablesFrom_whole _ specs g₁ fun y hy => ?_
        rcases List.mem_append.1 hy with hy | hy
        · exact htaken y hy
        · obtain ⟨_, _, hd⟩ := retry_eq_some hr
          rw [List.mem_singleton.1 hy]
          exact VariableSpec.draw_eq_ok hd
      · exact drawVariablesFrom_whole taken specs _ htaken

/-- Every drawn variable has an integer value. -/
theorem drawVariables_whole (specs : List VariableSpec) (g : σ) :
    ∀ y ∈ (drawVariables specs g).1, ∃ n : ℤ, y.value = Decimal.ofInt n :=
  drawVariablesFrom_whole [] specs g fun _ hy => absurd hy List.not_mem_nil

/-! ### Equations -/

/-- One step of the equations: the first specification's equation, if its
attempts gave one, then the equations of the rest. -/
theorem assembleAll_cons (vars : List Variable) (n : ℕ) (spec : EquationSpec)
    (specs : List EquationSpec) (g : σ) :
    ∃ (e? : Option Equation) (g₁ g₂ : σ), retry "Equation" (spec.assemble vars) attemptLimit g = (e?, g₁) ∧
      (assembleAll vars n (spec :: specs) g).1 = e?.toList ++ (assembleAll vars (n + 1) specs g₂).1 := by
  simp only [assembleAll]
  rcases retry "Equation" (spec.assemble vars) attemptLimit g with ⟨_ | e, g₁⟩
  · exact ⟨none, g₁, _, rfl, rfl⟩
  · exact ⟨some e, g₁, _, rfl, rfl⟩

/-- The equations of a quiz come, in order, from distinct specifications,
each assembled from the quiz's variables by one attempt. -/
theorem assembleAll_sublistForall₂ (vars : List Variable) :
    ∀ (n : ℕ) (specs : List EquationSpec) (g : σ),
      List.SublistForall₂ (fun e spec => ∃ g₀ g₁ : σ, spec.assemble vars g₀ = (.ok e, g₁))
        (assembleAll vars n specs g).1 specs
  | _, [], _ => by
      rw [assembleAll]
      exact .nil
  | n, spec :: specs, g => by
      obtain ⟨e?, g₁, g₂, hr, heq⟩ := assembleAll_cons vars n spec specs g
      have hrest := assembleAll_sublistForall₂ vars (n + 1) specs g₂
      rw [heq]
      cases e? with
      | none => exact .cons_right hrest
      | some e => exact .cons (retry_eq_some hr) hrest

/-! ### Quizzes -/

/-- A quiz holds the variables drawn, at least one, and the equations
assembled from them, at least one. -/
theorem Config.quizAttempt_eq_ok {c : Config} {g g' : σ} {q : Quiz}
    (h : c.quizAttempt g = (.ok q, g')) :
    ∃ g₁, drawVariables c.variableSpecs g = (q.drawnVariables, g₁) ∧ q.drawnVariables ≠ [] ∧
      (assembleAll q.drawnVariables 1 c.equationSpecs g₁).1 = q.equations ∧ q.equations ≠ [] := by
  unfold Config.quizAttempt at h
  generalize hd : drawVariables c.variableSpecs g = d at h
  obtain ⟨vars, g₁⟩ := d
  dsimp only at h
  split at h
  · cases h
  rename_i hvars
  generalize ha : assembleAll vars 1 c.equationSpecs g₁ = a at h
  obtain ⟨eqs, g₂⟩ := a
  dsimp only at h
  split at h
  · cases h
  rename_i heqs
  cases h
  refine ⟨g₁, rfl, ?_, by rw [ha], ?_⟩
  · simpa using hvars
  · simpa using heqs

/-- One step of the quizzes: the quiz of the first number, if its attempts
gave one, then the quizzes of the rest. -/
theorem Config.quizzesFrom_succ (c : Config) (number left : ℕ) (g : σ) :
    ∃ (q? : Option Quiz) (g₁ g₂ : σ), retry "Quiz" c.quizAttempt attemptLimit g = (q?, g₁) ∧
      (c.quizzesFrom number (left + 1) g).1 = q?.toList ++ (c.quizzesFrom (number + 1) left g₂).1 := by
  simp only [Config.quizzesFrom]
  rcases retry "Quiz" c.quizAttempt attemptLimit g with ⟨_ | q, g₁⟩
  · exact ⟨none, g₁, _, rfl, rfl⟩
  · exact ⟨some q, g₁, _, rfl, rfl⟩

/-- No more quizzes than numbers, and each returned by one attempt. -/
theorem Config.quizzesFrom_sound (c : Config) :
    ∀ (number left : ℕ) (g : σ), (c.quizzesFrom number left g).1.length ≤ left ∧
      ∀ q ∈ (c.quizzesFrom number left g).1, ∃ g₀ g₁ : σ, c.quizAttempt g₀ = (.ok q, g₁)
  | _, 0, _ => by simp [Config.quizzesFrom]
  | number, left + 1, g => by
      obtain ⟨q?, g₁, g₂, hr, heq⟩ := c.quizzesFrom_succ number left g
      obtain ⟨hlen, hsound⟩ := c.quizzesFrom_sound (number + 1) left g₂
      rw [heq]
      cases q? with
      | none =>
          rw [Option.toList_none, List.nil_append]
          exact ⟨hlen.trans (Nat.le_succ left), hsound⟩
      | some q =>
          refine ⟨by simpa using hlen, fun q' hq' => ?_⟩
          rcases List.mem_cons.1 hq' with rfl | hq'
          · exact retry_eq_some hr
          · exact hsound q' hq'

/-- The quizzes of a run are those of the quiz numbers, from some state. -/
theorem Config.quizzes_fst (c : Config) (g : σ) :
    ∃ g₁ : σ, (c.quizzes g).1 = (c.quizzesFrom 1 c.quiz.amount g₁).1 :=
  ⟨_, rfl⟩

/-- What a run of generation returns, for every configuration and every
source of draws: no more quizzes than asked for; in each quiz at least one
variable, and between one equation and one per specification; the equations
come, in order, from distinct specifications, each `Assembled` by its
specification from the quiz's variables. -/
theorem quizzes_assembled (c : Config) (g : σ) :
    (c.quizzes g).1.length ≤ c.quiz.amount ∧
      ∀ q ∈ (c.quizzes g).1, q.drawnVariables ≠ [] ∧
        0 < q.equations.length ∧ q.equations.length ≤ c.equationSpecs.length ∧
        List.SublistForall₂ (fun e spec => ∃ u ordered v, Assembled spec q.drawnVariables e u ordered v)
          q.equations c.equationSpecs := by
  obtain ⟨g₁, hqs⟩ := c.quizzes_fst g
  obtain ⟨hlen, hsound⟩ := c.quizzesFrom_sound 1 c.quiz.amount g₁
  rw [hqs]
  refine ⟨hlen, fun q hq => ?_⟩
  obtain ⟨g₀, _, hattempt⟩ := hsound q hq
  obtain ⟨g₂, hdraw, hvars, heqs, hne⟩ := Config.quizAttempt_eq_ok hattempt
  -- the variables have integer values, as drawn
  have hint : ∀ y ∈ q.drawnVariables, ∃ n : ℤ, y.value = Decimal.ofInt n := by
    have := drawVariables_whole c.variableSpecs g₀
    rwa [hdraw] at this
  have hall := assembleAll_sublistForall₂ q.drawnVariables 1 c.equationSpecs g₂
  rw [heqs] at hall
  obtain ⟨slots, hforall, hsub⟩ := List.sublistForall₂_iff.1 hall
  refine ⟨hvars, List.length_pos_of_ne_nil hne, hforall.length_eq ▸ hsub.length_le, ?_⟩
  refine List.sublistForall₂_iff.2 ⟨slots, hforall.imp fun e spec he => ?_, hsub⟩
  obtain ⟨_, _, hassemble⟩ := he
  exact assembled_of_assemble hint hassemble

end

/-! ### Runs on fixed configurations -/

/-- The source that draws the least it can: the bottom of each range, the
first position, and a coin that never comes up. -/
structure LowestDraws where

instance : DrawSource LowestDraws where
  uniformInt lo _ g := (lo, g)
  index _ g := (0, g)
  bernoulli _ g := (false, g)

/-- The lowest draws beside the silent journal. -/
def LowestDraws.traced : Traced LowestDraws := ⟨⟨⟩, .silent⟩

/-- Two variables summed in token mode. -/
def sumOfTwo : Config where
  quiz := { amount := 1 }
  variableSpecs := [⟨"a", ⟨1, 1⟩⟩, ⟨"b", ⟨2, 2⟩⟩]
  equationSpecs := [{ operators := [.add], selection := ⟨2, [["a", "b"]]⟩, substitution := .token }]

theorem sumOfTwo_quizzes_assembled :
    (sumOfTwo.quizzes LowestDraws.traced).1 =
        [⟨[⟨"a", .ofInt 1⟩, ⟨"b", .ofInt 2⟩], [⟨"a+b=3", "1+2=3"⟩]⟩] ∧
      List.SublistForall₂
        (fun e spec => ∃ u ordered v, Assembled spec [⟨"a", .ofInt 1⟩, ⟨"b", .ofInt 2⟩] e u ordered v)
        [⟨"a+b=3", "1+2=3"⟩] sumOfTwo.equationSpecs := by
  have hrun : (sumOfTwo.quizzes LowestDraws.traced).1 =
      [⟨[⟨"a", .ofInt 1⟩, ⟨"b", .ofInt 2⟩], [⟨"a+b=3", "1+2=3"⟩]⟩] := by
    cbv
  have hq := hrun ▸ List.mem_singleton_self _
  exact ⟨hrun, ((quizzes_assembled sumOfTwo LowestDraws.traced).2 _ hq).2.2.2⟩

/-- Two variables summed in token mode, the first named with an `=` and the
second negative. -/
def equalsInIdentifier : Config where
  quiz := { amount := 1 }
  variableSpecs := [⟨"2*1=", ⟨5, 5⟩⟩, ⟨"b", ⟨-3, -3⟩⟩]
  equationSpecs :=
    [{ operators := [.add], selection := ⟨2, [["2*1=", "b"]]⟩, substitution := .token }]

/-- An `=` in an identifier lets a negative value into the value form in token
mode: the solver reads only up to that `=`, and never meets the minus sign. -/
theorem quizzes_token_negative_after_equals :
    (equalsInIdentifier.quizzes LowestDraws.traced).1 =
      [⟨[⟨"2*1=", .ofInt 5⟩, ⟨"b", .ofInt (-3)⟩], [⟨"2*1=+b=2", "2*1=+-3=2"⟩]⟩] := by
  cbv

end ArithQuiz
