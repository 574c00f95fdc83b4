import Mathlib.Data.List.Range
import ArithQuiz.Proofs.Expr.Tiers

/-!
# `ArithQuiz.Proofs.Expr.Cuts`: where a tier cuts a text

`Expr.splitTier sym` cuts a text at the occurrences of `sym` that stand at
parenthesis depth zero, the depth counted over the prefix that ends with the
occurrence, except where the occurrence is the last character. `IsCut sym d cs i`
says that position `i` is such an occurrence when the text is read from depth
`d`, and `cutPositions sym cs` lists them in increasing order.

Parts are described by where they were joined: `seams ps` lists the positions
of the joining characters in `[sym].intercalate ps`. The main statement is
`splitTier_cuts_at_top_level`: a tier cuts a text (`hasCut`, and then two parts
or more) exactly when the text has a cut position; the parts always join back
into the text, their seams are exactly the cut positions in order, and after a
cut each part is shorter than the text. A part may be empty: a text that starts
with the symbol has an empty first part.

Both laws go along the cutter's own recursion, the depth and the open part
carried as in the accumulator form of a splitter: `hasCut_eq_true_iff` and
`seams_splitFrom`, each step taken by `isCut_cons_zero` and `isCut_cons_succ`.
-/

set_option autoImplicit false

namespace ArithQuiz.Expr

/-- Position `i` of a text read from depth `d` is a cut at `sym`: the character
there is `sym`, the depth over the prefix that ends with it is back at zero, and
it is not the last character. -/
def IsCut (sym : Char) (d : Int) (cs : List Char) (i : ℕ) : Prop :=
  i + 1 < cs.length ∧ cs[i]? = some sym ∧ d + depth (cs.take (i + 1)) = 0

instance (sym : Char) (d : Int) (cs : List Char) : DecidablePred (IsCut sym d cs) :=
  fun _ => inferInstanceAs (Decidable (_ ∧ _ ∧ _))

/-- The cut positions of a text read from depth zero, in increasing order. -/
def cutPositions (sym : Char) (cs : List Char) : List ℕ :=
  (List.range cs.length).filter fun i => decide (IsCut sym 0 cs i)

/-- The positions of the joining characters when parts are joined with one
character between each two. -/
def seams : List (List Char) → List ℕ
  | [] => []
  | [_] => []
  | p :: q :: rest => p.length :: (seams (q :: rest)).map (· + (p.length + 1))

/-! ### Cut positions, one character at a time -/

theorem not_isCut_nil (sym : Char) (d : Int) (i : ℕ) : ¬ IsCut sym d [] i := by
  simp [IsCut]

/-- The last character is never a cut. -/
theorem not_isCut_singleton (sym c : Char) (d : Int) (i : ℕ) : ¬ IsCut sym d [c] i := by
  simp [IsCut]

/-- The first of two characters or more is a cut when it is the symbol and
brings the depth back to zero. -/
theorem isCut_cons_zero (sym c c' : Char) (d : Int) (rest : List Char) :
    IsCut sym d (c :: c' :: rest) 0 ↔ c = sym ∧ d + depthStep c = 0 := by
  simp [IsCut]

/-- A later position is a cut exactly when it is a cut of the rest, read from
the depth after the first character. -/
theorem isCut_cons_succ (sym c : Char) (d : Int) (cs : List Char) (i : ℕ) :
    IsCut sym d (c :: cs) (i + 1) ↔ IsCut sym (d + depthStep c) cs i := by
  simp only [IsCut, List.length_cons, List.getElem?_cons_succ, List.take_succ_cons, depth_cons]
  constructor
  · rintro ⟨hlen, hsym, hdepth⟩
    exact ⟨by omega, hsym, by omega⟩
  · rintro ⟨hlen, hsym, hdepth⟩
    exact ⟨by omega, hsym, by omega⟩

/-- The cut positions of a text of two characters or more: the first, if it is
one, then those of the rest, one place further on. -/
theorem filter_isCut_cons (sym c c' : Char) (d : Int) (rest : List Char) :
    (List.range (rest.length + 2)).filter (fun i => decide (IsCut sym d (c :: c' :: rest) i)) =
      (if c = sym ∧ d + depthStep c = 0 then [0] else []) ++
        ((List.range (rest.length + 1)).filter
          fun i => decide (IsCut sym (d + depthStep c) (c' :: rest) i)).map (· + 1) := by
  rw [List.range_succ_eq_map, List.filter_cons, List.filter_map]
  have hrest : (fun i => decide (IsCut sym d (c :: c' :: rest) i)) ∘ Nat.succ =
      fun i => decide (IsCut sym (d + depthStep c) (c' :: rest) i) := by
    funext i
    simp only [Function.comp_apply, Nat.succ_eq_add_one, isCut_cons_succ]
  rw [hrest]
  by_cases hfirst : c = sym ∧ d + depthStep c = 0
  · obtain ⟨rfl, hdepth⟩ := hfirst
    simp [isCut_cons_zero, hdepth]
  · simp [isCut_cons_zero, hfirst]

/-! ### The two laws of the cutter -/

/-- A tier cuts a text exactly when the text has a cut position. -/
theorem hasCut_eq_true_iff (sym : Char) :
    ∀ (cs : List Char) (d : Int), hasCut sym d cs = true ↔ ∃ i, IsCut sym d cs i
  | [], d => by simp [hasCut, not_isCut_nil]
  | [c], d => by simp [hasCut, not_isCut_singleton]
  | c :: c' :: rest, d => by
      simp only [hasCut, Bool.or_eq_true, decide_eq_true_iff, hasCut_eq_true_iff sym (c' :: rest)]
      constructor
      · rintro (hfirst | ⟨i, hi⟩)
        · exact ⟨0, (isCut_cons_zero sym c c' d rest).2 hfirst⟩
        · exact ⟨i + 1, (isCut_cons_succ sym c d _ i).2 hi⟩
      · rintro ⟨_ | i, hi⟩
        · exact .inl ((isCut_cons_zero sym c c' d rest).1 hi)
        · exact .inr ⟨i, (isCut_cons_succ sym c d _ i).1 hi⟩

/-- The parts the cutter makes of a text, behind an open part `cur`, are joined
at the text's cut positions, moved on by the length of `cur`. -/
theorem seams_splitFrom (sym : Char) :
    ∀ (cs : List Char) (d : Int) (cur : List Char),
      seams (splitFrom sym d cur cs) =
        ((List.range cs.length).filter fun i => decide (IsCut sym d cs i)).map (· + cur.length)
  | [], _, _ => by simp [splitFrom, seams]
  | [c], d, cur => by simp [splitFrom, seams, not_isCut_singleton]
  | c :: c' :: rest, d, cur => by
      have ih := seams_splitFrom sym (c' :: rest) (d + depthStep c)
      simp only [List.length_cons, filter_isCut_cons]
      simp only [splitFrom]
      split
      · rename_i hcut
        -- the open part closes here, at position `cur.length` of the whole text
        obtain ⟨q, qs, hq⟩ := List.exists_cons_of_ne_nil
          (splitFrom_ne_nil sym (c' :: rest) (d + depthStep c) [] (List.cons_ne_nil _ _))
        rw [hq, seams, ← hq, ih []]
        simp only [List.length_reverse, List.length_nil, List.length_cons, List.map_map,
          List.singleton_append, List.map_cons, Nat.zero_add]
        congr 1
        apply List.map_congr_left
        intro i _
        simp only [Function.comp_apply]
        omega
      · rename_i hcut
        rw [ih (c :: cur), List.nil_append, List.map_map, List.length_cons]
        apply List.map_congr_left
        intro i _
        simp only [Function.comp_apply]
        omega

/-- The seams of the parts are the cut positions of the text. -/
theorem seams_splitTier (sym : Char) (cs : List Char) :
    seams (splitTier sym cs) = cutPositions sym cs := by
  simpa [splitTier, cutPositions] using seams_splitFrom sym cs 0 []

/-- The cutter loses nothing, the empty text included. -/
theorem intercalate_splitTier_eq (sym : Char) (cs : List Char) :
    [sym].intercalate (splitTier sym cs) = cs := by
  cases cs with
  | nil => rfl
  | cons c cs => exact intercalate_splitTier sym (List.cons_ne_nil c cs)

/-- A tier cuts a text exactly when some occurrence of its symbol stands at
depth zero and is not the last character. The parts, two or more when it does,
join back into the text at exactly those occurrences, in order, and each of
them is then shorter than the text. -/
theorem splitTier_cuts_at_top_level (op : Operator) (cs : List Char) :
    (hasCut op.symbol 0 cs = true ↔ ∃ i, IsCut op.symbol 0 cs i) ∧
      (2 ≤ (splitTier op.symbol cs).length ↔ ∃ i, IsCut op.symbol 0 cs i) ∧
      [op.symbol].intercalate (splitTier op.symbol cs) = cs ∧
      seams (splitTier op.symbol cs) = cutPositions op.symbol cs ∧
      ((∃ i, IsCut op.symbol 0 cs i) → ∀ p ∈ splitTier op.symbol cs, p.length < cs.length) := by
  have hcut := hasCut_eq_true_iff op.symbol cs 0
  have hparts : 2 ≤ (splitTier op.symbol cs).length ↔ ∃ i, IsCut op.symbol 0 cs i :=
    (hasCut_iff op.symbol cs).symm.trans hcut
  refine ⟨hcut, hparts, intercalate_splitTier_eq op.symbol cs, seams_splitTier op.symbol cs, ?_⟩
  intro h p hp
  exact length_lt_of_mem_splitTier (hparts.2 h) hp

/-- A text that starts with the symbol has an empty first part. -/
example : splitTier '-' ['-', '4'] = [[], ['4']] := by decide

example : cutPositions '-' ['(', '1', '-', '2', ')', '-', '3', '-'] = [5] := by decide

end ArithQuiz.Expr
