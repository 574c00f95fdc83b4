/-!
# Sources of random draws

Generation makes three kinds of random draw: an integer of an inclusive
range, a position below a length, and a coin with a given probability of
`true`. `DrawSource σ` gives the three as steps on a state `σ`, so that every
generator is defined, and can be reasoned about, for every source of draws:
the seeded word stream of `ArithQuiz.Random.Stream` is one instance.

`choose` picks a list element at a drawn position; an empty list gives `none`
and takes no draw.
-/

set_option autoImplicit false

namespace ArithQuiz.Random

/-- A source of the three kinds of random draw, as steps on a state. -/
class DrawSource (σ : Type) where
  /-- An integer of `lo..=hi`, meant for `lo ≤ hi`. -/
  uniformInt : Int → Int → σ → Int × σ
  /-- A position below `len`, meant for `0 < len`. -/
  index : Nat → σ → Nat × σ
  /-- `true` with probability `p`, meant for `0 ≤ p ≤ 1`. -/
  bernoulli : Rat → σ → Bool × σ

namespace DrawSource

variable {σ : Type} [DrawSource σ]

/-- One element of a list at a drawn position; an empty list gives `none`
and takes no draw. -/
def choose {α : Type} (xs : List α) (g : σ) : Option α × σ :=
  if xs.isEmpty then (none, g)
  else
    let (i, g) := index xs.length g
    (xs[i]?, g)

/-- Choosing from an empty list draws nothing. -/
@[simp] theorem choose_nil {α : Type} (g : σ) : choose ([] : List α) g = (none, g) := rfl

end DrawSource

end ArithQuiz.Random
