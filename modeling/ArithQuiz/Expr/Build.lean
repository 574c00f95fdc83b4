import ArithQuiz.Expr.Basic
import ArithQuiz.Expr.Error
import ArithQuiz.Text.Blank

/-!
# Building a tree from text

`Expr.build` reads an expression by operator tiers, loosest first. At a tier,
the text is cut at every occurrence of the tier's operator outside
parentheses, except in the last position; two or more parts make a node
whose children are the parts built at the next tier, otherwise the next tier
is tried on the same text. A text without any operator is a leaf, verbatim.
When every tier has failed, one pair of enclosing parentheses is stripped and
the inner text starts again at the loosest tier; without such a pair the text
is malformed.

The recursion ends because each step either shortens the text (a part of a
cut, or the inside of parentheses) or moves to a tighter tier:
`length_lt_of_mem_splitTier` and `length_lt_of_stripParens?` are the two
facts it needs.

The depth of parentheses is an unbounded `Int` here (`depthStep`, and the
running count in `splitFrom` and `hasCut`), where the source counts it in an
`i32`. The two agree while the running depth stays in the `i32` range, that
is below `2^31` parentheses open at once and above `-2^31`: a text that goes
past it holds more than `2^31` parentheses, and there the source's counter
overflows (a panic in a debug build, a wrap-around in a release build) while
this one does not.
-/

set_option autoImplicit false

namespace ArithQuiz

namespace Expr

/-- The change of parenthesis depth at a character. -/
def depthStep (c : Char) : Int := if c = '(' then 1 else if c = ')' then -1 else 0

/-- Cuts the rest of a text, given the depth `d` before it and the part `cur`
collected since the last cut, held reversed. The last character always closes
the last part. -/
def splitFrom (sym : Char) (d : Int) (cur : List Char) : List Char → List (List Char)
  | [] => []
  | [c] => [(c :: cur).reverse]
  | c :: c' :: rest =>
    let d' := d + depthStep c
    if c = sym ∧ d' = 0 then cur.reverse :: splitFrom sym d' [] (c' :: rest)
    else splitFrom sym d' (c :: cur) (c' :: rest)

/-- The parts of a text cut at the top-level occurrences of `sym`. -/
def splitTier (sym : Char) (cs : List Char) : List (List Char) := splitFrom sym 0 [] cs

/-- Every part is at most as long as what it was cut from. -/
theorem length_le_of_mem_splitFrom (sym : Char) :
    ∀ (cs : List Char) (d : Int) (cur p : List Char),
      p ∈ splitFrom sym d cur cs → p.length ≤ cur.length + cs.length
  | [], _, _, p, hp => by simp [splitFrom] at hp
  | [c], _, cur, p, hp => by
    simp only [splitFrom, List.mem_singleton] at hp
    subst hp
    simp
  | c :: c' :: rest, d, cur, p, hp => by
    simp only [splitFrom] at hp
    split at hp
    · rcases List.mem_cons.mp hp with h | h
      · subst h; simp
      · have := length_le_of_mem_splitFrom sym (c' :: rest) _ [] p h
        simp only [List.length_cons, List.length_nil] at this ⊢
        omega
    · have := length_le_of_mem_splitFrom sym (c' :: rest) _ (c :: cur) p hp
      simp only [List.length_cons] at this ⊢
      omega

/-- When a cut happened, every part is shorter than what it was cut from. -/
theorem length_lt_of_mem_splitFrom (sym : Char) :
    ∀ (cs : List Char) (d : Int) (cur p : List Char),
      2 ≤ (splitFrom sym d cur cs).length → p ∈ splitFrom sym d cur cs →
        p.length < cur.length + cs.length
  | [], _, _, _, h, _ => by simp [splitFrom] at h
  | [c], _, cur, p, h, _ => by simp [splitFrom] at h
  | c :: c' :: rest, d, cur, p, h, hp => by
    simp only [splitFrom] at h hp
    split at hp
    · rcases List.mem_cons.mp hp with e | e
      · subst e; simp
      · have := length_le_of_mem_splitFrom sym (c' :: rest) _ [] p e
        simp only [List.length_cons, List.length_nil] at this ⊢
        omega
    · rename_i hc
      simp only [hc, if_false] at h
      have := length_lt_of_mem_splitFrom sym (c' :: rest) _ (c :: cur) p h hp
      simp only [List.length_cons] at this ⊢
      omega

theorem length_lt_of_mem_splitTier {sym : Char} {cs p : List Char}
    (h : 2 ≤ (splitTier sym cs).length) (hp : p ∈ splitTier sym cs) : p.length < cs.length := by
  have := length_lt_of_mem_splitFrom sym cs 0 [] p h hp
  simpa using this

/-- Whether `splitFrom sym d` would cut the text at least once: some
occurrence of `sym` other than the last character brings the depth to zero.
It reads the text without building the parts. -/
def hasCut (sym : Char) (d : Int) : List Char → Bool
  | [] => false
  | [_] => false
  | c :: c' :: rest =>
    let d' := d + depthStep c
    (c = sym ∧ d' = 0) || hasCut sym d' (c' :: rest)

/-- Without a cut the text stays in one part, so checking `hasCut` first
changes nothing. -/
theorem length_splitFrom_le_one (sym : Char) :
    ∀ (cs : List Char) (d : Int) (cur : List Char),
      hasCut sym d cs = false → (splitFrom sym d cur cs).length ≤ 1
  | [], _, _, _ => by simp [splitFrom]
  | [c], _, _, _ => by simp [splitFrom]
  | c :: c' :: rest, d, cur, h => by
    simp only [hasCut, Bool.or_eq_false_iff, decide_eq_false_iff_not] at h
    simp only [splitFrom]
    rw [if_neg h.1]
    exact length_splitFrom_le_one sym (c' :: rest) _ _ h.2

/-- Whether a text holds one of the four operator characters. -/
def hasOperator (cs : List Char) : Bool := cs.any Operator.isSymbol

/-- The inside of a text that opens with `(` and closes with `)`. -/
def stripParens? : List Char → Option (List Char)
  | '(' :: rest => if rest.getLast? = some ')' then some rest.dropLast else none
  | _ => none

theorem length_lt_of_stripParens? {cs inner : List Char} (h : stripParens? cs = some inner) :
    inner.length + 2 ≤ cs.length := by
  unfold stripParens? at h
  split at h
  · rename_i rest
    split at h
    · rename_i hl
      simp only [Option.some.injEq] at h
      subst h
      have hne : rest ≠ [] := by
        intro e; subst e; simp at hl
      have : rest.length ≠ 0 := by simpa using hne
      simp only [List.length_dropLast, List.length_cons]
      omega
    · simp at h
  · simp at h

-- `h` is read only by the termination proof.
set_option linter.unusedVariables false in
/-- Builds the tree of a text at a tier (`none`: every tier was tried). -/
def buildAt (cs : List Char) (tier : Option Operator) : Except ExprError Expr :=
  if hasOperator cs then
    match tier with
    | none =>
      match h : stripParens? cs with
      | some inner => buildAt inner (some .sub)
      | none => .error (.malformed (String.ofList cs))
    | some op =>
      if !hasCut op.symbol 0 cs then buildAt cs op.next
      else if h : 2 ≤ (splitTier op.symbol cs).length then
        ((splitTier op.symbol cs).attach.mapM
            fun (p : {p // p ∈ splitTier op.symbol cs}) => buildAt p.1 op.next).map
          (node (String.ofList cs) op)
      else buildAt cs op.next
  else .ok (.leaf (String.ofList cs))
termination_by cs.length * 5 + (4 - Operator.rank tier)
decreasing_by
  · -- the inside of parentheses, back at the loosest tier
    have := length_lt_of_stripParens? h
    simp only [Operator.rank]
    omega
  · -- the same text at a tighter tier
    have := Operator.rank_next_gt op
    have := Operator.rank_le_four op.next
    omega
  · -- a part of a cut
    have := length_lt_of_mem_splitTier h p.2
    have := Operator.rank_le_four op.next
    omega
  · -- the same text at a tighter tier
    have := Operator.rank_next_gt op
    have := Operator.rank_le_four op.next
    omega

/-- The tree of an expression given as characters: blank texts are refused,
all else is built from the loosest tier. -/
def buildChars (cs : List Char) : Except ExprError Expr :=
  if cs.all Text.isBlank then .error .empty else buildAt cs (some .sub)

/-- The tree of an expression, see `buildChars`. -/
def build (s : String) : Except ExprError Expr := buildChars s.toList

/-- The left side of an equation: its characters before the first `=`. -/
def equationLeft (s : String) : List Char := s.toList.takeWhile (· ≠ '=')

/-- The tree of the left side of an equation. -/
def buildEquation (s : String) : Except ExprError Expr :=
  buildChars (equationLeft s)

end Expr

end ArithQuiz
