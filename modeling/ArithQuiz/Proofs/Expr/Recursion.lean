import Mathlib.Order.WellFounded
import ArithQuiz.Proofs.Expr.Tiers

/-!
# `ArithQuiz.Proofs.Expr.Recursion`: why the builder stops

`Expr.buildAt` calls itself in three ways, the constructors of `BuildCall`:
on the same text at the next tier when a tier cuts nothing, on the inside of a
pair of enclosing parentheses back at the loosest tier when no tier is left,
and on each part of a cut at the next tier. No single quantity falls on every
call: stripping parentheses starts the tiers over. The pair `callSize` of the
text's length and the number of tiers left does fall, lexicographically: the
first call keeps the length and leaves one tier fewer, the other two shorten
the text (`callSize_lt`). So the calls are well founded
(`buildCall_wellFounded`).

The builder's branch equations (`BuildEquations`: a leaf, a strip, a malformed
text, a tier passed over, a cut) hold of `buildAt` (`buildEquations_buildAt`),
and, by induction along the calls, of no other function
(`eq_buildAt_of_buildEquations`): the equations determine the builder on every
text and at every tier, which is what its stopping means for a reader of
them. The main statement is `buildAt_terminates`.
-/

set_option autoImplicit false

namespace ArithQuiz.Expr

/-- How many tiers are left to try at a tier: four at the loosest, none past
division. -/
def tiersLeft (tier : Option Operator) : ℕ := 4 - Operator.rank tier

theorem tiersLeft_next (op : Operator) : tiersLeft op.next + 1 = tiersLeft (some op) := by
  cases op <;> rfl

/-- One recursive call of the builder: building the text and tier `b` calls the
builder on `a`. -/
inductive BuildCall : List Char × Option Operator → List Char × Option Operator → Prop
  /-- A tier that cuts nothing hands the same text to the next tier. -/
  | pass {cs : List Char} {op : Operator} : hasOperator cs = true →
      hasCut op.symbol 0 cs = false → BuildCall (cs, op.next) (cs, some op)
  /-- With no tier left, the inside of enclosing parentheses starts again at
  the loosest tier. -/
  | strip {cs inner : List Char} : hasOperator cs = true → stripParens? cs = some inner →
      BuildCall (inner, some .sub) (cs, none)
  /-- A tier that cuts builds each part at the next tier. -/
  | part {cs p : List Char} {op : Operator} : hasOperator cs = true →
      hasCut op.symbol 0 cs = true → p ∈ splitTier op.symbol cs → BuildCall (p, op.next) (cs, some op)

/-- What a call is measured by: the length of its text, then the tiers left. -/
def callSize (a : List Char × Option Operator) : ℕ × ℕ := (a.1.length, tiersLeft a.2)

/-- Every call of the builder is on a smaller pair of text length and tiers
left: the same text with a tier fewer, or a shorter text. -/
theorem callSize_lt {a b : List Char × Option Operator} (h : BuildCall a b) :
    Prod.Lex (· < ·) (· < ·) (callSize a) (callSize b) := by
  cases h with
  | @pass cs op _ _ =>
      apply Prod.Lex.right
      show tiersLeft op.next < tiersLeft (some op)
      have := tiersLeft_next op
      omega
  | @strip cs inner _ hs =>
      -- two characters shorter, whatever the tiers left
      apply Prod.Lex.left
      show inner.length < cs.length
      have := length_lt_of_stripParens? hs
      omega
  | part _ hcut hp =>
      apply Prod.Lex.left
      exact length_lt_of_mem_splitTier ((hasCut_iff _ _).1 hcut) hp

/-- No chain of calls of the builder goes on for ever. -/
theorem buildCall_wellFounded : WellFounded BuildCall :=
  Subrelation.wf (fun h => callSize_lt h)
    (InvImage.wf callSize (WellFounded.prod_lex wellFounded_lt wellFounded_lt))

/-- The equations of the builder, one per branch, for a function from a text
and a tier to a tree. -/
structure BuildEquations (F : List Char → Option Operator → Except ExprError Expr) : Prop where
  /-- A text without operators is a leaf. -/
  leaf : ∀ cs tier, hasOperator cs = false → F cs tier = .ok (.leaf (String.ofList cs))
  /-- With no tier left, enclosing parentheses are stripped. -/
  strip : ∀ cs inner, hasOperator cs = true → stripParens? cs = some inner →
    F cs none = F inner (some .sub)
  /-- With no tier left and no enclosing parentheses, the text is malformed. -/
  malformed : ∀ cs, hasOperator cs = true → stripParens? cs = none →
    F cs none = .error (.malformed (String.ofList cs))
  /-- A tier that cuts nothing passes the text to the next. -/
  pass : ∀ cs op, hasOperator cs = true → hasCut op.symbol 0 cs = false →
    F cs (some op) = F cs op.next
  /-- A tier that cuts makes a node of the parts, each built at the next tier. -/
  cut : ∀ cs op, hasOperator cs = true → hasCut op.symbol 0 cs = true →
    F cs (some op) = ((splitTier op.symbol cs).mapM (F · op.next)).map (node (String.ofList cs) op)

/-- The builder satisfies its equations. -/
theorem buildEquations_buildAt : BuildEquations buildAt where
  leaf _ tier h := buildAt_leaf h tier
  strip _ _ h hs := buildAt_strip h hs
  malformed _ h hs := buildAt_malformed h hs
  pass _ _ h hc := buildAt_pass h hc
  cut _ _ h hc := buildAt_cut h hc

/-- `mapM` of two functions that agree on every member of the list. -/
theorem mapM_congr {ε α β : Type} {f g : α → Except ε β} :
    ∀ {xs : List α}, (∀ x ∈ xs, f x = g x) → xs.mapM f = xs.mapM g
  | [], _ => rfl
  | x :: xs, h => by
      rw [List.mapM_cons, List.mapM_cons, h x List.mem_cons_self,
        mapM_congr fun y hy => h y (List.mem_cons_of_mem x hy)]

/-- A function with the builder's equations is the builder. -/
theorem eq_buildAt_of_buildEquations {F : List Char → Option Operator → Except ExprError Expr}
    (hF : BuildEquations F) : F = buildAt := by
  suffices key : ∀ a : List Char × Option Operator, F a.1 a.2 = buildAt a.1 a.2 by
    funext cs tier
    exact key (cs, tier)
  -- induction along the builder's calls; each branch calls only on smaller pairs
  intro a
  induction a using buildCall_wellFounded.induction with
  | _ a ih =>
      obtain ⟨cs, tier⟩ := a
      cases hop : hasOperator cs with
      | false => rw [hF.leaf cs tier hop, buildAt_leaf hop]
      | true =>
          cases tier with
          | none =>
              cases hs : stripParens? cs with
              | none => rw [hF.malformed cs hop hs, buildAt_malformed hop hs]
              | some inner =>
                  rw [hF.strip cs inner hop hs, buildAt_strip hop hs]
                  exact ih (inner, some .sub) (.strip hop hs)
          | some op =>
              cases hc : hasCut op.symbol 0 cs with
              | false =>
                  rw [hF.pass cs op hop hc, buildAt_pass hop hc]
                  exact ih (cs, op.next) (.pass hop hc)
              | true =>
                  rw [hF.cut cs op hop hc, buildAt_cut hop hc,
                    mapM_congr fun p hp => ih (p, op.next) (.part hop hc hp)]

/-- The builder stops on every text at every tier. Each call it makes is on a
smaller pair of text length and tiers left, lexicographically, so its calls
are well founded; and its branch equations, which it satisfies, have no other
solution. -/
theorem buildAt_terminates :
    (∀ a b, BuildCall a b → Prod.Lex (· < ·) (· < ·) (callSize a) (callSize b)) ∧
      WellFounded BuildCall ∧ BuildEquations buildAt ∧
      ∀ F, BuildEquations F → F = buildAt :=
  ⟨fun _ _ h => callSize_lt h, buildCall_wellFounded, buildEquations_buildAt,
    fun _ hF => eq_buildAt_of_buildEquations hF⟩

end ArithQuiz.Expr
