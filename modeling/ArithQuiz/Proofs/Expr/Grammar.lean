import Mathlib.Data.List.Chain
import ArithQuiz.Proofs.Expr.Tiers
import ArithQuiz.Proofs.Decimal.Numeral
import ArithQuiz.Expr.Eval

/-!
# `ArithQuiz.Proofs.Expr.Grammar`: the tier grammar and its parse trees

The expressions the builder accepts are the sentences of a grammar with one
level per operator tier, loosest first:

    D ::= P ('-' P)*    P ::= M ('+' M)*    M ::= Q ('*' Q)*    Q ::= A ('/' A)*
    A ::= numeral | '(' D' ')'

where `D'` is a sentence of `D` holding at least one operator. `Derives lvl cs t`
says that the text `cs` is a sentence of level `lvl` with parse tree `t`: level
`some op` is the tier of `op`, level `none` is `A`. A level with one operand is
that operand's tree, a level with two or more is a node holding the level's
text and the operands' trees in order, and parentheses leave no trace in the
tree. The grammar is written with `Derives` alone; the builder appears only in
the theorems.

The main statement is `buildAt_of_derives`: every sentence is built, at its own
level, into its parse tree. It rests on `Derives.shape`, the invariant that
tells the cutter where a sentence can be cut: a sentence is non-empty, closes
every parenthesis it opens without ever going below depth zero, and holds at
depth zero no operator of a looser tier than its own. So `splitTier` returns
exactly the operands a chain was joined from (`splitTier_intercalate`), a tier
looser than the sentence's cuts nothing, and the inside of parentheses is
never cut before they are stripped.

`Derives.signs` tells where a minus sign can stand in a sentence: right
after a digit or a closing parenthesis, never first, and a sentence ends with
a digit or a closing parenthesis.

`Expr.ratValue?` is the value of a tree over exact rationals: each node folds its
operator over its children from left to right, and a division by zero has no
value.
-/

set_option autoImplicit false

namespace ArithQuiz.Expr

open ArithQuiz.Decimal (Numeral numeralValue IsDigits)

/-- Sentences of the tier grammar with their parse trees: `cs` is a sentence of
level `lvl` (`some op` for the tier of `op`, `none` for an atom) and `t` is its
parse tree. -/
inductive Derives : Option Operator → List Char → Expr → Prop
  /-- A number is an atom, and a leaf holding its text. -/
  | numeral {cs : List Char} : Numeral cs → Derives none cs (.leaf (String.ofList cs))
  /-- An expression with an operator, in parentheses, is an atom with the
  expression's tree. -/
  | paren {cs : List Char} {t : Expr} : Derives (some .sub) cs t →
      (∃ op : Operator, op.symbol ∈ cs) → Derives none ('(' :: cs ++ [')']) t
  /-- A tier level with one operand is that operand. -/
  | single {op : Operator} {cs : List Char} {t : Expr} :
      Derives op.next cs t → Derives (some op) cs t
  /-- A tier level with two operands or more, joined by the tier's operator, is
  a node over the operands' trees in order, holding the level's text. -/
  | chain {op : Operator} (items : List (List Char × Expr)) : 2 ≤ items.length →
      (∀ x ∈ items, Derives op.next x.1 x.2) →
      Derives (some op) ([op.symbol].intercalate (items.map Prod.fst))
        (.node (String.ofList ([op.symbol].intercalate (items.map Prod.fst))) op
          (items.map Prod.snd))

/-- A sentence is a sentence of every looser level too, with the same tree. -/
theorem Derives.lift {cs : List Char} {t : Expr} (h : Derives none cs t) :
    ∀ lvl, Derives lvl cs t
  | none => h
  | some .div => .single h
  | some .mul => .single (.single h)
  | some .add => .single (.single (.single h))
  | some .sub => .single (.single (.single (.single h)))

end ArithQuiz.Expr

namespace ArithQuiz.Operator

/-- An operator over exact rationals; a division by zero has no value. -/
def exact : Operator → ℚ → ℚ → Option ℚ
  | add, a, b => some (a + b)
  | sub, a, b => some (a - b)
  | mul, a, b => some (a * b)
  | div, a, b => if b = 0 then none else some (a / b)

end ArithQuiz.Operator

namespace ArithQuiz.Expr

open ArithQuiz.Decimal (Numeral numeralValue IsDigits)

mutual
/-- The value of a tree over exact rationals: a leaf is the number its text
spells, a node folds its operator over its children from left to right. A node
without children, and a division by zero, have no value. -/
def ratValue? : Expr → Option ℚ
  | leaf s => some (numeralValue s.toList)
  | node _ _ [] => none
  | node _ op (c :: cs) => (ratValue? c).bind fun v => foldExact op v cs

/-- The fold of `op` over further children, from the running value `acc`. -/
def foldExact (op : Operator) (acc : ℚ) : List Expr → Option ℚ
  | [] => some acc
  | c :: cs => (ratValue? c).bind fun v => (op.exact acc v).bind fun r => foldExact op r cs
end

/-! ### Where a sentence can be cut -/

/-- What the cutter sees of a sentence of level `lvl`: it is non-empty, it comes
back to depth zero without going below it, and no operator of a looser tier
than `lvl` stands in it at depth zero. -/
structure Shape (lvl : Option Operator) (cs : List Char) : Prop where
  ne_nil : cs ≠ []
  depth_eq : depth cs = 0
  not_dips : ¬ Dips 0 cs
  no_looser : ∀ op : Operator, Operator.rank (some op) < Operator.rank lvl →
    ¬ OccursAtTop op.symbol 0 cs

/-- A digit or a point is neither a parenthesis nor an operator. -/
theorem depthStep_of_digit_or_point {c : Char} (h : c.isDigit = true ∨ c = '.') :
    depthStep c = 0 := by
  rcases h with h | rfl
  · have h1 : c ≠ '(' := by rintro rfl; exact absurd h (by decide)
    have h2 : c ≠ ')' := by rintro rfl; exact absurd h (by decide)
    simp [depthStep, h1, h2]
  · rfl

theorem symbol_ne_of_digit_or_point (op : Operator) {c : Char} (h : c.isDigit = true ∨ c = '.') :
    op.symbol ≠ c := by
  rcases h with h | rfl
  · rintro rfl; cases op <;> exact absurd h (by decide)
  · cases op <;> decide

theorem Shape.of_numeral {cs : List Char} (h : Numeral cs) (lvl : Option Operator) : Shape lvl cs where
  ne_nil := h.ne_nil
  depth_eq := depth_eq_zero_of_no_parens cs fun _ hc => depthStep_of_digit_or_point (h.mem hc)
  not_dips := not_dips_of_no_parens cs fun _ hc => depthStep_of_digit_or_point (h.mem hc)
  no_looser := fun op _ => not_occursAtTop_of_not_mem _ cs
    (fun hc => symbol_ne_of_digit_or_point op (h.mem hc) rfl) 0

/-- Parentheses around a sentence of the loosest tier hide everything inside
from the cutter. -/
theorem Shape.paren {cs : List Char} (h : Shape (some .sub) cs) : Shape none ('(' :: cs ++ [')']) where
  ne_nil := by simp
  depth_eq := by simp [h.depth_eq]
  not_dips := by
    have h1 : ¬ Dips 1 cs := not_dips_mono cs (by omega) h.not_dips
    simp [dips_append, h1, h.depth_eq]
  no_looser := fun op _ => by
    have h1 : ¬ OccursAtTop op.symbol (0 + 1) cs :=
      not_occursAtTop_of_not_dips _ cs 0 1 le_rfl (by omega) h.not_dips
    have hopen : '(' ≠ op.symbol := by cases op <;> decide
    have hclose : ')' ≠ op.symbol := by cases op <;> decide
    simp only [List.cons_append, occursAtTop_cons, occursAtTop_append, hopen, false_and,
      false_or, depthStep_open, Int.zero_add] at h1 ⊢
    simpa [hclose] using h1

theorem Shape.single {op : Operator} {cs : List Char} (h : Shape op.next cs) : Shape (some op) cs where
  ne_nil := h.ne_nil
  depth_eq := h.depth_eq
  not_dips := h.not_dips
  no_looser := fun op' hlt => h.no_looser op' (by have := Operator.rank_next_gt op; omega)

theorem Shape.chain {op : Operator} {parts : List (List Char)} (htwo : 2 ≤ parts.length)
    (h : ∀ p ∈ parts, Shape op.next p) : Shape (some op) ([op.symbol].intercalate parts) where
  ne_nil := by
    have hne : parts ≠ [] := List.ne_nil_of_length_pos (by omega)
    obtain ⟨p, ps, rfl⟩ := List.exists_cons_of_ne_nil hne
    exact intercalate_cons_ne_nil _ ps (h p (by simp)).ne_nil
  depth_eq := depth_intercalate _ (depthStep_symbol op) parts fun p hp => (h p hp).depth_eq
  not_dips := not_dips_intercalate _ (depthStep_symbol op) parts
    fun p hp => ⟨(h p hp).depth_eq, (h p hp).not_dips⟩
  no_looser := fun op' hlt => by
    have hne : op'.symbol ≠ op.symbol := by
      intro heq
      cases op <;> cases op' <;> simp_all [Operator.symbol, Operator.rank]
    exact not_occursAtTop_intercalate _ (depthStep_symbol op) _ hne parts fun p hp =>
      ⟨(h p hp).depth_eq, (h p hp).no_looser op' (by have := Operator.rank_next_gt op; omega)⟩

/-- Every sentence has the shape of its level. -/
theorem Derives.shape {lvl : Option Operator} {cs : List Char} {t : Expr} (h : Derives lvl cs t) :
    Shape lvl cs := by
  induction h with
  | numeral hn => exact Shape.of_numeral hn none
  | paren _ _ ih => exact ih.paren
  | single _ ih => exact ih.single
  | chain items htwo _ ih =>
      exact Shape.chain (by simpa using htwo) fun p hp => by
        obtain ⟨x, hx, rfl⟩ := List.mem_map.1 hp
        exact ih x hx

/-! ### Every sentence is built into its parse tree -/

/-- A number holds no operator. -/
theorem hasOperator_of_numeral {cs : List Char} (h : Numeral cs) : hasOperator cs = false := by
  cases hop : hasOperator cs with
  | false => rfl
  | true =>
      obtain ⟨op, hmem⟩ := hasOperator_iff.1 hop
      exact absurd rfl (symbol_ne_of_digit_or_point op (h.mem hmem))

/-- Building each first component, when each is built into the second. -/
theorem mapM_fst_eq_ok {ε α β : Type} (f : α → Except ε β) :
    ∀ items : List (α × β), (∀ x ∈ items, f x.1 = .ok x.2) →
      (items.map Prod.fst).mapM f = .ok (items.map Prod.snd)
  | [], _ => rfl
  | x :: xs, h => by
      have hx := h x (by simp)
      have hxs := mapM_fst_eq_ok f xs fun y hy => h y (List.mem_cons_of_mem _ hy)
      simp only [List.map_cons, List.mapM_cons, hx, hxs]
      rfl

/-- A sentence is cut by no tier looser than its own level. -/
theorem hasCut_eq_false {lvl : Option Operator} {cs : List Char} (h : Shape lvl cs) (op : Operator)
    (hlt : Operator.rank (some op) < Operator.rank lvl) : hasCut op.symbol 0 cs = false := by
  cases hc : hasCut op.symbol 0 cs with
  | false => rfl
  | true => exact absurd (occursAtTop_of_hasCut _ cs 0 hc) (h.no_looser op hlt)

/-- Every sentence is built, at its own level, into its parse tree. -/
theorem buildAt_of_derives {lvl : Option Operator} {cs : List Char} {t : Expr}
    (h : Derives lvl cs t) : buildAt cs lvl = .ok t := by
  induction h with
  | numeral hn => exact buildAt_leaf (hasOperator_of_numeral hn) none
  | @paren cs t _ hop ih =>
      have hop' : hasOperator ('(' :: cs ++ [')']) = true := by
        obtain ⟨op, hmem⟩ := hop
        exact hasOperator_iff.2 ⟨op, by simp [hmem]⟩
      rw [buildAt_strip hop' (stripParens?_eq_some_iff.2 rfl)]
      exact ih
  | @single op cs t hd ih =>
      cases hop : hasOperator cs with
      | false => rw [buildAt_leaf hop, ← buildAt_leaf hop op.next, ih]
      | true =>
          -- the operand holds no operator of this tier at depth zero: nothing is cut
          rw [buildAt_pass hop (hasCut_eq_false hd.shape op (Operator.rank_next_gt op)), ih]
  | @chain op items htwo hitems ih =>
      -- the cutter returns exactly the operands the chain was joined from
      have hsplit : splitTier op.symbol ([op.symbol].intercalate (items.map Prod.fst)) =
          items.map Prod.fst := by
        refine splitTier_intercalate _ (depthStep_symbol op) _ ?_ fun p hp => ?_
        · exact List.ne_nil_of_length_pos (by simp; omega)
        · obtain ⟨x, hx, rfl⟩ := List.mem_map.1 hp
          have hs := (hitems x hx).shape
          exact ⟨hs.ne_nil, hs.depth_eq, hs.no_looser op (Operator.rank_next_gt op)⟩
      have hcut : hasCut op.symbol 0 ([op.symbol].intercalate (items.map Prod.fst)) = true :=
        (hasCut_iff _ _).2 (by rw [hsplit]; simpa using htwo)
      have hop : hasOperator ([op.symbol].intercalate (items.map Prod.fst)) = true :=
        hasOperator_iff.2 ⟨op, mem_of_occursAtTop (occursAtTop_of_hasCut _ _ 0 hcut)⟩
      rw [buildAt_cut hop hcut, hsplit, mapM_fst_eq_ok _ items ih]
      rfl

/-! ### Where a minus sign can stand -/

/-- Two neighbouring characters of a sentence: a minus sign comes right after
an operand, that is, after a digit or a closing parenthesis. -/
def FollowsOperand (a b : Char) : Prop := b = '-' → a.isDigit = true ∨ a = ')'

/-- The minus signs of a sentence: each follows an operand, none comes first
(the sentence is read after an opening parenthesis), and the sentence ends
with an operand. -/
structure Signs (cs : List Char) : Prop where
  follow : ('(' :: cs).IsChain FollowsOperand
  last : ∃ A c, cs = A ++ [c] ∧ (c.isDigit = true ∨ c = ')')

/-- Without minus signs every neighbour relation holds. -/
theorem isChain_followsOperand_of_not_mem (a : Char) :
    ∀ cs : List Char, '-' ∉ cs → (a :: cs).IsChain FollowsOperand
  | [], _ => .singleton a
  | c :: cs, h => by
      have hc : c ≠ '-' := fun e => h (e ▸ List.mem_cons_self ..)
      exact List.IsChain.cons_cons (fun e => absurd e hc)
        (isChain_followsOperand_of_not_mem c cs fun hm => h (List.mem_cons_of_mem c hm))

/-- A chain that starts right after an operand starts anywhere: its first
character is no minus sign. -/
theorem isChain_followsOperand_cons (a : Char) {cs : List Char}
    (h : ('(' :: cs).IsChain FollowsOperand) : (a :: cs).IsChain FollowsOperand := by
  rw [List.isChain_cons] at h ⊢
  refine ⟨fun y hy e => ?_, h.2⟩
  rcases h.1 y hy e with h1 | h1 <;> exact absurd h1 (by decide)

theorem Signs.of_numeral {cs : List Char} (h : Numeral cs) : Signs cs where
  follow := isChain_followsOperand_of_not_mem '(' cs fun hm => by
    rcases h.mem hm with h1 | h1 <;> exact absurd h1 (by decide)
  last := by
    cases h with
    | whole hi =>
        obtain ⟨A, c, rfl⟩ := List.eq_nil_or_concat' cs |>.resolve_left hi.1
        exact ⟨A, c, rfl, .inl (hi.2 c (by simp))⟩
    | @point i f _ hf =>
        obtain ⟨A, c, rfl⟩ := List.eq_nil_or_concat' f |>.resolve_left hf.1
        exact ⟨i ++ '.' :: A, c, by simp, .inl (hf.2 c (by simp))⟩

/-- Parentheses around a sentence keep its minus signs after operands, and end
with one. -/
theorem Signs.paren {cs : List Char} (h : Signs cs) : Signs ('(' :: cs ++ [')']) where
  follow := by
    rw [List.cons_append, List.isChain_cons_cons]
    refine ⟨fun e => absurd e (by decide), ?_⟩
    refine h.follow.append (.singleton _) fun x _ y hy e => ?_
    simp only [List.head?_cons, Option.mem_def, Option.some.injEq] at hy
    exact absurd (hy.trans e) (by decide)
  last := ⟨'(' :: cs, ')', rfl, .inr rfl⟩

/-- Sentences joined by an operator keep their minus signs after operands: the
operator follows the end of a sentence, and the next sentence starts with no
minus sign. -/
theorem Signs.intercalate (sym : Char) :
    ∀ parts : List (List Char), parts ≠ [] → (∀ p ∈ parts, Signs p) →
      Signs ([sym].intercalate parts)
  | [], hne, _ => absurd rfl hne
  | [p], _, h => by simpa using h p (by simp)
  | p :: q :: rest, _, h => by
      have hp := h p (by simp)
      have hrest := Signs.intercalate sym (q :: rest) (List.cons_ne_nil q rest)
        fun r hr => h r (List.mem_cons_of_mem p hr)
      obtain ⟨A, c, hA, hc⟩ := hrest.last
      rw [List.intercalate_cons_cons]
      constructor
      · -- the operator after the end of `p`, then the rest read after the operator
        have hsplit : '(' :: (p ++ [sym] ++ [sym].intercalate (q :: rest)) =
            ('(' :: p) ++ sym :: [sym].intercalate (q :: rest) := by simp
        rw [hsplit]
        refine hp.follow.append ?_ fun x hx y hy e => ?_
        · exact isChain_followsOperand_cons sym hrest.follow
        · obtain ⟨B, d, hB, hd⟩ := hp.last
          rw [hB, ← List.cons_append, List.getLast?_append, List.getLast?_singleton] at hx
          simp only [Option.some_or, Option.mem_def, Option.some.injEq] at hx
          simp only [List.head?_cons, Option.mem_def, Option.some.injEq] at hy
          subst hx hy
          exact hd
      · exact ⟨p ++ sym :: A, c, by rw [hA]; simp, hc⟩

/-- In every sentence a minus sign stands only after an operand, and the
sentence ends with one. -/
theorem Derives.signs {lvl : Option Operator} {cs : List Char} {t : Expr} (h : Derives lvl cs t) :
    Signs cs := by
  induction h with
  | numeral hn => exact Signs.of_numeral hn
  | paren _ _ ih => exact ih.paren
  | single _ ih => exact ih
  | chain items htwo _ ih =>
      refine Signs.intercalate _ _ (List.ne_nil_of_length_pos (by simp; omega)) fun p hp => ?_
      obtain ⟨x, hx, rfl⟩ := List.mem_map.1 hp
      exact ih x hx

/-- A minus sign of a sentence follows a digit or a closing parenthesis. -/
theorem Signs.before_minus {A B : List Char} {c : Char} (h : Signs (A ++ c :: '-' :: B)) :
    c.isDigit = true ∨ c = ')' := by
  have hf := h.follow
  rw [← List.cons_append, List.isChain_append_cons_cons] at hf
  exact hf.2.1 rfl

/-- A sentence does not start with a minus sign. -/
theorem Signs.ne_minus_cons {B : List Char} (h : Signs ('-' :: B)) : False := by
  rcases List.isChain_cons_cons.1 h.follow |>.1 rfl with h1 | h1 <;> exact absurd h1 (by decide)

end ArithQuiz.Expr
