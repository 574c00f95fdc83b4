import Mathlib.Data.Nat.Notation
import ArithQuiz.Quiz.Basic

/-!
# `ArithQuiz.Proofs.Quiz.Retry`: how many attempts a unit gets

`retry unit attempt limit` calls `attempt` on a state until it succeeds, at
most `limit` times, and tells each failure in the journal the state carries
before the next call. The attempts of a run are therefore read off one
sequence of states: `attemptState ... i` is the state attempt `i + 1` starts
from when the attempts before it failed, each failure told (`afterFailure`).

The main statement is `retry_attempts_until_first_success`. When attempt
`k + 1 ≤ limit` is the first to succeed, the run returns its value and the
state it left, after exactly `k + 1` calls; when the first `limit` attempts
all fail, it returns nothing and the state after them, after exactly `limit`
calls. So the loop stops at the first success, not before and not after.

Calls are counted on a `Tallied` state, a ghost counter beside the state that
the counting attempt `Tallied.tally` steps once per call and the journal never
touches (`Tallied.attemptState_tally`).

The proof is one induction on the attempts left, through `retryFrom_succ_of_ok`
and `retryFrom_succ_of_error` (one attempt of the loop) and
`attemptState_succ_of_error` (a failed first attempt shifts the sequence by
one).
-/

set_option autoImplicit false

namespace ArithQuiz

section

variable {σ α : Type} [Journaled σ]

/-- The state the next attempt starts from after attempt `number` of `limit`
failed with `e` and left `g`: the failure is told in the journal. -/
def afterFailure (unit : String) (limit number : ℕ) (e : AttemptError) (g : σ) : σ :=
  Journaled.note g .debug fun _ =>
    unit ++ " attempt " ++ toString number ++ "/" ++ toString limit ++ " failed: " ++ e.message

/-- The state attempt `first + i` starts from, the attempts before it having
failed; a success would end the run, and leaves its own state. -/
def attemptState (unit : String) (limit : ℕ) (attempt : σ → Except AttemptError α × σ)
    (first : ℕ) (g : σ) : ℕ → σ
  | 0 => g
  | i + 1 =>
    match attempt (attemptState unit limit attempt first g i) with
    | (.ok _, g') => g'
    | (.error e, g') => afterFailure unit limit (first + i) e g'

/-- Attempt `first + i` fails, from the state the attempts before it left. -/
def FailsAt (unit : String) (limit : ℕ) (attempt : σ → Except AttemptError α × σ)
    (first : ℕ) (g : σ) (i : ℕ) : Prop :=
  ∃ e, (attempt (attemptState unit limit attempt first g i)).1 = .error e

variable (unit : String) (limit : ℕ) (attempt : σ → Except AttemptError α × σ)

/-- An attempt that succeeds ends the loop with its value and its state. -/
theorem retryFrom_succ_of_ok {number left : ℕ} {g g' : σ} {a : α} (h : attempt g = (.ok a, g')) :
    retryFrom unit limit attempt number (left + 1) g = (some a, g') := by
  rw [retryFrom, h]

/-- An attempt that fails is told, and the loop goes on with one attempt fewer. -/
theorem retryFrom_succ_of_error {number left : ℕ} {g g' : σ} {e : AttemptError}
    (h : attempt g = (.error e, g')) :
    retryFrom unit limit attempt number (left + 1) g =
      retryFrom unit limit attempt (number + 1) left (afterFailure unit limit number e g') := by
  rw [retryFrom, h]
  rfl

/-- After a failed first attempt, the sequence of states goes on from the state
it left, told, with the attempts numbered one further. -/
theorem attemptState_succ_of_error (first : ℕ) {g g' : σ} {e : AttemptError}
    (h : attempt g = (.error e, g')) :
    ∀ i, attemptState unit limit attempt first g (i + 1) =
      attemptState unit limit attempt (first + 1) (afterFailure unit limit first e g') i
  | 0 => by simp [attemptState, h]
  | i + 1 => by
      rw [attemptState, attemptState_succ_of_error first h i, attemptState,
        show first + 1 + i = first + (i + 1) by omega]

/-- After a failed first attempt, attempt `i + 2` fails exactly when attempt
`i + 1` of the run from the state it left fails. -/
theorem failsAt_succ_of_error (first : ℕ) {g g' : σ} {e : AttemptError}
    (h : attempt g = (.error e, g')) (i : ℕ) :
    FailsAt unit limit attempt first g (i + 1) ↔
      FailsAt unit limit attempt (first + 1) (afterFailure unit limit first e g') i := by
  rw [FailsAt, FailsAt, attemptState_succ_of_error unit limit attempt first h]

/-- The run of `left` attempts from attempt `number`: the first success within
them is returned with the state it left; when all fail, nothing is returned and
the state is the one after them. -/
theorem retryFrom_eq :
    ∀ (left number : ℕ) (g : σ),
      (∀ k a g', k < left → (∀ i < k, FailsAt unit limit attempt number g i) →
        attempt (attemptState unit limit attempt number g k) = (.ok a, g') →
          retryFrom unit limit attempt number left g = (some a, g')) ∧
      ((∀ i < left, FailsAt unit limit attempt number g i) →
        retryFrom unit limit attempt number left g =
          (none, attemptState unit limit attempt number g left))
  | 0, number, g => ⟨fun k _ _ hk => absurd hk (Nat.not_lt_zero k), fun _ => rfl⟩
  | left + 1, number, g => by
      -- the first attempt either succeeds, and ends the run, or fails and shifts it
      rcases hfirst : attempt g with ⟨_ | a₀, g₀⟩
      · rename_i e
        have shift := attemptState_succ_of_error unit limit attempt number hfirst
        have fails_shift := failsAt_succ_of_error unit limit attempt number hfirst
        have ih := retryFrom_eq left (number + 1) (afterFailure unit limit number e g₀)
        rw [retryFrom_succ_of_error unit limit attempt hfirst]
        refine ⟨fun k a g' hk hfail hok => ?_, fun hfail => ?_⟩
        · -- attempt `k + 1` succeeds, so it is not the first
          cases k with
          | zero =>
              rw [attemptState, hfirst] at hok
              cases hok
          | succ k =>
              refine ih.1 k a g' (by omega) (fun i hi => ?_) (by rw [← shift]; exact hok)
              exact (fails_shift i).1 (hfail (i + 1) (by omega))
        · rw [ih.2 fun i hi => (fails_shift i).1 (hfail (i + 1) (by omega)), shift]
      · refine ⟨fun k a g' hk hfail hok => ?_, fun hfail => ?_⟩
        · -- the first attempt succeeds, so it is attempt `k + 1`
          cases k with
          | zero =>
              rw [attemptState, hfirst] at hok
              cases hok
              exact retryFrom_succ_of_ok unit limit attempt hfirst
          | succ k =>
              obtain ⟨e, he⟩ := hfail 0 (Nat.succ_pos k)
              rw [attemptState, hfirst] at he
              cases he
        · obtain ⟨e, he⟩ := hfail 0 (Nat.succ_pos left)
          rw [attemptState, hfirst] at he
          cases he

end

/-! ### Counting the calls -/

/-- A state beside the number of attempts made on it so far. -/
structure Tallied (σ : Type) where
  /-- The state the attempts run on. -/
  state : σ
  /-- The attempts made. -/
  calls : ℕ

namespace Tallied

variable {σ α : Type} [Journaled σ]

/-- The journal is the state's. -/
instance : Journaled (Tallied σ) :=
  ⟨fun t => Journaled.journal t.state, fun t j => { t with state := Journaled.withJournal t.state j }⟩

/-- The attempt `attempt`, counting its calls. -/
def tally (attempt : σ → Except AttemptError α × σ) (t : Tallied σ) :
    Except AttemptError α × Tallied σ :=
  ((attempt t.state).1, ⟨(attempt t.state).2, t.calls + 1⟩)

/-- Telling a failure leaves the count as it is. -/
theorem afterFailure_eq (unit : String) (limit number : ℕ) (e : AttemptError) (t : Tallied σ) :
    afterFailure unit limit number e t = ⟨afterFailure unit limit number e t.state, t.calls⟩ := by
  unfold afterFailure Journaled.note
  change (if (Journaled.journal t.state).keeps .debug = true then _ else t) = _
  by_cases h : (Journaled.journal t.state).keeps .debug = true
  · rw [if_pos h, if_pos h]
    rfl
  · rw [if_neg h, if_neg h]

/-- Counting changes no state an attempt starts from, and counts the attempts
before it. -/
theorem attemptState_tally (unit : String) (limit : ℕ) (attempt : σ → Except AttemptError α × σ)
    (first : ℕ) (g : σ) (c : ℕ) :
    ∀ i, attemptState unit limit (tally attempt) first ⟨g, c⟩ i =
      ⟨attemptState unit limit attempt first g i, c + i⟩
  | 0 => rfl
  | i + 1 => by
      rw [attemptState, attemptState_tally unit limit attempt first g c i, attemptState]
      simp only [tally]
      rcases attempt (attemptState unit limit attempt first g i) with ⟨_ | a, g'⟩
      · dsimp only
        rw [afterFailure_eq]
        rfl
      · rfl

theorem failsAt_tally (unit : String) (limit : ℕ) (attempt : σ → Except AttemptError α × σ)
    (first : ℕ) (g : σ) (c i : ℕ) :
    FailsAt unit limit (tally attempt) first ⟨g, c⟩ i ↔ FailsAt unit limit attempt first g i := by
  simp only [FailsAt, attemptState_tally, tally]

end Tallied

section

variable {σ α : Type} [Journaled σ]

/-- A run of at most `n` attempts stops at the first success. When attempt
`k + 1 ≤ n` is the first to succeed, the run returns its value and the state it
left, after exactly `k + 1` calls. When none of the `n` attempts succeeds, it
returns nothing and the state after them, each failure told, after exactly `n`
calls. -/
theorem retry_attempts_until_first_success (unit : String)
    (attempt : σ → Except AttemptError α × σ) (n : ℕ) (g : σ) :
    (∀ k a g', k < n → (∀ i < k, FailsAt unit n attempt 1 g i) →
      attempt (attemptState unit n attempt 1 g k) = (.ok a, g') →
        retry unit attempt n g = (some a, g') ∧
          (retry unit (Tallied.tally attempt) n ⟨g, 0⟩).2.calls = k + 1) ∧
    ((∀ i < n, FailsAt unit n attempt 1 g i) →
      retry unit attempt n g = (none, attemptState unit n attempt 1 g n) ∧
        (retry unit (Tallied.tally attempt) n ⟨g, 0⟩).2.calls = n) := by
  have hplain := retryFrom_eq unit n attempt n 1 g
  have htally := retryFrom_eq unit n (Tallied.tally attempt) n 1 ⟨g, 0⟩
  simp only [Tallied.failsAt_tally, Tallied.attemptState_tally, Nat.zero_add] at htally
  refine ⟨fun k a g' hk hfail hok => ⟨hplain.1 k a g' hk hfail hok, ?_⟩,
    fun hfail => ⟨hplain.2 hfail, ?_⟩⟩
  · -- the counted run makes the same attempts, and the `k + 1`-th succeeds
    have hcount := htally.1 k a ⟨g', k + 1⟩ hk hfail (by simp [Tallied.tally, hok])
    rw [retry, hcount]
  · rw [retry, htally.2 hfail]

/-- An attempt that counts its calls in the state and succeeds from the third
on is called three times, and its third value is returned. -/
example :
    let attempt : Tallied Journal → Except AttemptError ℕ × Tallied Journal := fun t =>
      if t.calls + 1 < 3 then (.error (.incompleteQuiz 0 0), ⟨t.state, t.calls + 1⟩)
      else (.ok (t.calls + 1), ⟨t.state, t.calls + 1⟩)
    (retry "test" attempt 100 ⟨.silent, 0⟩).1 = some 3 ∧
      (retry "test" attempt 100 ⟨.silent, 0⟩).2.calls = 3 := by
  decide

end

end ArithQuiz
