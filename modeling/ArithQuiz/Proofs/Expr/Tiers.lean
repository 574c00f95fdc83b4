import Mathlib.Data.List.Basic
import ArithQuiz.Expr.Build

/-!
# `ArithQuiz.Proofs.Expr.Tiers`: cutting a text at one tier

`Expr.splitTier sym` cuts a text at every occurrence of `sym` that stands
outside parentheses and is not the last character. This file gives the
cutter the two laws a splitter is known by, in the shape of Mathlib's
`List.intercalate_splitOn` / `List.splitOn_intercalate`:

* `intercalate_splitTier`: joining the parts with `sym` gives the text back,
  whatever the text.
* `splitTier_intercalate`: parts that hold no `sym` at depth zero, are
  non-empty and close every parenthesis they open are cut apart exactly
  where they were joined.

Depth is counted with the builder's own `depthStep`; `depth` adds it up over a
text, `OccursAtTop c d cs` says that `c` stands in `cs` at depth zero when
`cs` is read from depth `d`, and `Dips d cs` that the depth drops below zero
somewhere. Both are recursions on the text, so each append lemma is one
induction.

The second half states `Expr.buildAt` branch by branch (`buildAt_leaf`,
`buildAt_none`, `buildAt_pass`, `buildAt_cut`). The definition is by
well-founded recursion and walks its parts through `List.attach`; the branch
lemmas hide both, so the proofs about the builder never unfold it.
-/

set_option autoImplicit false

namespace ArithQuiz.Expr

/-! ### Parenthesis depth -/

/-- The depth change over a whole text: `(` counts one up, `)` one down. -/
def depth : List Char → Int
  | [] => 0
  | c :: cs => depthStep c + depth cs

@[simp] theorem depth_nil : depth [] = 0 := rfl

@[simp] theorem depth_cons (c : Char) (cs : List Char) :
    depth (c :: cs) = depthStep c + depth cs := rfl

@[simp] theorem depth_append (a b : List Char) : depth (a ++ b) = depth a + depth b := by
  induction a with
  | nil => simp
  | cons c a ih => rw [List.cons_append, depth_cons, depth_cons, ih, Int.add_assoc]

@[simp] theorem depthStep_open : depthStep '(' = 1 := rfl

@[simp] theorem depthStep_close : depthStep ')' = -1 := rfl

/-- An operator symbol leaves the depth as it is. -/
@[simp] theorem depthStep_symbol (op : Operator) : depthStep op.symbol = 0 := by
  cases op <;> rfl

/-- `c` stands in the text at depth zero, the text being read from depth `d`.
The depth at a character is the depth after it, as the cutter counts. -/
def OccursAtTop (c : Char) : Int → List Char → Prop
  | _, [] => False
  | d, x :: xs => (x = c ∧ d + depthStep x = 0) ∨ OccursAtTop c (d + depthStep x) xs

/-- Read from depth `d`, the depth drops below zero somewhere in the text. -/
def Dips : Int → List Char → Prop
  | _, [] => False
  | d, x :: xs => d + depthStep x < 0 ∨ Dips (d + depthStep x) xs

@[simp] theorem occursAtTop_nil (c : Char) (d : Int) : ¬ OccursAtTop c d [] := id

@[simp] theorem occursAtTop_cons (c x : Char) (d : Int) (xs : List Char) :
    OccursAtTop c d (x :: xs) ↔
      (x = c ∧ d + depthStep x = 0) ∨ OccursAtTop c (d + depthStep x) xs := Iff.rfl

@[simp] theorem dips_nil (d : Int) : ¬ Dips d [] := id

@[simp] theorem dips_cons (x : Char) (d : Int) (xs : List Char) :
    Dips d (x :: xs) ↔ d + depthStep x < 0 ∨ Dips (d + depthStep x) xs := Iff.rfl

theorem occursAtTop_append (c : Char) (a b : List Char) (d : Int) :
    OccursAtTop c d (a ++ b) ↔ OccursAtTop c d a ∨ OccursAtTop c (d + depth a) b := by
  induction a generalizing d with
  | nil => simp
  | cons x xs ih =>
      simp only [List.cons_append, occursAtTop_cons, ih, depth_cons, Int.add_assoc]
      tauto

theorem dips_append (a b : List Char) (d : Int) :
    Dips d (a ++ b) ↔ Dips d a ∨ Dips (d + depth a) b := by
  induction a generalizing d with
  | nil => simp
  | cons x xs ih =>
      simp only [List.cons_append, dips_cons, ih, depth_cons, Int.add_assoc]
      tauto

/-- A text in which the depth, counted from `d ≥ 0`, never drops below zero
holds nothing at depth zero once it is read from a depth `e` higher: this is
why the inside of a pair of parentheses is invisible to the cutter. -/
theorem not_occursAtTop_of_not_dips (c : Char) :
    ∀ (cs : List Char) (d e : Int), 0 ≤ d → 0 < e → ¬ Dips d cs → ¬ OccursAtTop c (d + e) cs
  | [], _, _, _, _, _ => by simp
  | x :: xs, d, e, hd, he, hdips => by
      simp only [dips_cons, not_or, Int.not_lt] at hdips
      simp only [occursAtTop_cons, not_or, not_and]
      refine ⟨fun _ => by omega, ?_⟩
      have key := not_occursAtTop_of_not_dips c xs (d + depthStep x) e hdips.1 he hdips.2
      rwa [show d + e + depthStep x = d + depthStep x + e by ac_rfl]

theorem mem_of_occursAtTop {c : Char} :
    ∀ {d : Int} {cs : List Char}, OccursAtTop c d cs → c ∈ cs
  | _, [], h => absurd h (occursAtTop_nil _ _)
  | _, x :: _, h => by
      rcases h with ⟨rfl, _⟩ | h
      · exact List.mem_cons_self
      · exact List.mem_cons_of_mem _ (mem_of_occursAtTop h)

/-- A text without `(` and `)` never leaves depth zero... -/
theorem depth_eq_zero_of_no_parens (cs : List Char) (h : ∀ c ∈ cs, depthStep c = 0) :
    depth cs = 0 := by
  induction cs with
  | nil => rfl
  | cons x xs ih =>
      simp only [List.mem_cons, forall_eq_or_imp] at h
      simp [h.1, ih h.2]

/-- ... so it never dips below it, read from zero. -/
theorem not_dips_of_no_parens (cs : List Char) (h : ∀ c ∈ cs, depthStep c = 0) : ¬ Dips 0 cs := by
  induction cs with
  | nil => simp
  | cons x xs ih =>
      simp only [List.mem_cons, forall_eq_or_imp] at h
      simp [h.1, ih h.2]

/-- A character that is not in the text does not stand in it at any depth. -/
theorem not_occursAtTop_of_not_mem (c : Char) (cs : List Char) (h : c ∉ cs) (d : Int) :
    ¬ OccursAtTop c d cs := by
  induction cs generalizing d with
  | nil => simp
  | cons x xs ih =>
      simp only [List.mem_cons, not_or] at h
      simp only [occursAtTop_cons, not_or, not_and]
      exact ⟨fun hx => absurd hx.symm h.1, ih h.2 _⟩

/-- Reading from a higher depth never dips where a lower start did not. -/
theorem not_dips_mono : ∀ (cs : List Char) {d e : Int}, d ≤ e → ¬ Dips d cs → ¬ Dips e cs
  | [], _, _, _, _ => by simp
  | x :: xs, d, e, hde, h => by
      simp only [dips_cons, not_or, Int.not_lt] at h ⊢
      exact ⟨by omega, not_dips_mono xs (by omega) h.2⟩

/-! ### Texts joined at a symbol -/

section Joined

variable (sym : Char) (hsym : depthStep sym = 0)
include hsym

/-- Parts that come back to depth zero, joined by a symbol, come back to depth zero. -/
theorem depth_intercalate :
    ∀ ps : List (List Char), (∀ p ∈ ps, depth p = 0) → depth ([sym].intercalate ps) = 0
  | [], _ => rfl
  | [p], h => by simpa using h p (by simp)
  | p :: q :: qs, h => by
      have hrest := depth_intercalate (q :: qs) fun r hr => h r (List.mem_cons_of_mem _ hr)
      rw [List.intercalate_cons_cons, depth_append, depth_append, hrest, h p (by simp)]
      simp [hsym]

/-- Joining parts that never dip below zero, each back at zero at its end,
never dips either. -/
theorem not_dips_intercalate :
    ∀ ps : List (List Char), (∀ p ∈ ps, depth p = 0 ∧ ¬ Dips 0 p) →
      ¬ Dips 0 ([sym].intercalate ps)
  | [], _ => by simp
  | [p], h => by simpa using (h p (by simp)).2
  | p :: q :: qs, h => by
      have hp := h p (by simp)
      have hrest := not_dips_intercalate (q :: qs) fun r hr => h r (List.mem_cons_of_mem _ hr)
      rw [List.intercalate_cons_cons, List.append_assoc, dips_append, hp.1, Int.add_zero,
        List.singleton_append, dips_cons, hsym]
      simpa [hp.2] using hrest

/-- A character other than the joining symbol stands at depth zero in the
joined text only where it stands at depth zero in a part. -/
theorem not_occursAtTop_intercalate (c : Char) (hc : c ≠ sym) :
    ∀ ps : List (List Char), (∀ p ∈ ps, depth p = 0 ∧ ¬ OccursAtTop c 0 p) →
      ¬ OccursAtTop c 0 ([sym].intercalate ps)
  | [], _ => by simp
  | [p], h => by simpa using (h p (by simp)).2
  | p :: q :: qs, h => by
      have hp := h p (by simp)
      have hrest := not_occursAtTop_intercalate c hc (q :: qs)
        fun r hr => h r (List.mem_cons_of_mem _ hr)
      rw [List.intercalate_cons_cons, List.append_assoc, occursAtTop_append, hp.1, Int.add_zero,
        List.singleton_append, occursAtTop_cons, hsym]
      simp only [Int.add_zero, not_or, not_and]
      exact ⟨hp.2, fun h' => absurd h'.symm hc, hrest⟩

end Joined

/-! ### The cutter -/

theorem splitFrom_ne_nil (sym : Char) :
    ∀ (cs : List Char) (d : Int) (cur : List Char), cs ≠ [] → splitFrom sym d cur cs ≠ []
  | [], _, _, h => absurd rfl h
  | [c], _, _, _ => by simp [splitFrom]
  | c :: c' :: rest, d, cur, _ => by
      simp only [splitFrom]
      split
      · simp
      · exact splitFrom_ne_nil sym (c' :: rest) _ _ (List.cons_ne_nil _ _)

/-- Joining the parts with `sym` gives back the text, behind the part collected
so far. -/
theorem intercalate_splitFrom (sym : Char) :
    ∀ (cs : List Char) (d : Int) (cur : List Char), cs ≠ [] →
      [sym].intercalate (splitFrom sym d cur cs) = cur.reverse ++ cs
  | [], _, _, h => absurd rfl h
  | [c], _, cur, _ => by simp [splitFrom]
  | c :: c' :: rest, d, cur, _ => by
      have hrest := splitFrom_ne_nil sym (c' :: rest) (d + depthStep c) [] (List.cons_ne_nil _ _)
      simp only [splitFrom]
      split
      · rename_i hc
        obtain ⟨p, ps, hps⟩ := List.exists_cons_of_ne_nil hrest
        rw [hps, List.intercalate_cons_cons, ← hps,
          intercalate_splitFrom sym (c' :: rest) _ [] (List.cons_ne_nil _ _), hc.1]
        simp
      · rw [intercalate_splitFrom sym (c' :: rest) _ (c :: cur) (List.cons_ne_nil _ _)]
        simp

/-- The cutter loses nothing: joining the parts with `sym` gives the text. -/
theorem intercalate_splitTier (sym : Char) {cs : List Char} (h : cs ≠ []) :
    [sym].intercalate (splitTier sym cs) = cs := by
  simpa [splitTier] using intercalate_splitFrom sym cs 0 [] h

/-- A stretch with no `sym` at depth zero is read through whole: the cutter
comes out of it with the stretch added to the open part and its depth added
to the count. The rest must be non-empty, so that the stretch holds no last
character. -/
theorem splitFrom_append_of_not_occursAtTop (sym : Char) :
    ∀ (p : List Char) (d : Int) (cur rest : List Char), ¬ OccursAtTop sym d p → rest ≠ [] →
      splitFrom sym d cur (p ++ rest) = splitFrom sym (d + depth p) (p.reverse ++ cur) rest
  | [], d, cur, rest, _, _ => by simp
  | c :: p, d, cur, rest, hp, hrest => by
      simp only [occursAtTop_cons, not_or] at hp
      obtain ⟨c', rest', h'⟩ :=
        List.exists_cons_of_ne_nil (List.append_ne_nil_of_right_ne_nil p hrest)
      rw [List.cons_append, h']
      simp only [splitFrom]
      rw [if_neg hp.1, ← h', splitFrom_append_of_not_occursAtTop sym p _ _ rest hp.2 hrest]
      simp [Int.add_assoc]

/-- At a `sym` at depth zero that is not the last character, the open part is
closed and a new one begins. -/
theorem splitFrom_symbol_cons (sym : Char) (hsym : depthStep sym = 0) (cur : List Char)
    (c : Char) (rest : List Char) :
    splitFrom sym 0 cur (sym :: c :: rest) = cur.reverse :: splitFrom sym 0 [] (c :: rest) := by
  simp [splitFrom, hsym]

/-- A non-empty text with no `sym` at depth zero stays one part. -/
theorem splitFrom_of_not_occursAtTop (sym : Char) {p : List Char} (d : Int) (cur : List Char)
    (hne : p ≠ []) (hp : ¬ OccursAtTop sym d p) :
    splitFrom sym d cur p = [cur.reverse ++ p] := by
  obtain ⟨q, x, rfl⟩ := (List.eq_nil_or_concat p).resolve_left hne
  rw [List.concat_eq_append] at hp ⊢
  have hq : ¬ OccursAtTop sym d q := fun h => hp ((occursAtTop_append sym q [x] d).2 (Or.inl h))
  rw [splitFrom_append_of_not_occursAtTop sym q d cur [x] hq (List.cons_ne_nil _ _)]
  simp [splitFrom]

theorem intercalate_cons_ne_nil (sym : Char) {q : List Char} (qs : List (List Char)) (hq : q ≠ []) :
    [sym].intercalate (q :: qs) ≠ [] := by
  cases qs with
  | nil => simpa using hq
  | cons q' qs' => simp [List.intercalate_cons_cons, hq]

/-- Parts that are non-empty, come back to depth zero and hold no `sym` at depth
zero are cut apart exactly where they were joined. -/
theorem splitTier_intercalate (sym : Char) (hsym : depthStep sym = 0) :
    ∀ parts : List (List Char), parts ≠ [] →
      (∀ p ∈ parts, p ≠ [] ∧ depth p = 0 ∧ ¬ OccursAtTop sym 0 p) →
        splitTier sym ([sym].intercalate parts) = parts
  | [], h, _ => absurd rfl h
  | [p], _, hp => by
      have hp0 := hp p (by simp)
      simp [splitTier, splitFrom_of_not_occursAtTop sym 0 [] hp0.1 hp0.2.2]
  | p :: q :: qs, _, hp => by
      have hp0 := hp p (by simp)
      have hq := hp q (by simp)
      obtain ⟨c, rest, hc⟩ := List.exists_cons_of_ne_nil (intercalate_cons_ne_nil sym qs hq.1)
      have ih := splitTier_intercalate sym hsym (q :: qs) (List.cons_ne_nil _ _)
        (fun r hr => hp r (List.mem_cons_of_mem _ hr))
      rw [List.intercalate_cons_cons, List.append_assoc, splitTier,
        splitFrom_append_of_not_occursAtTop sym p 0 [] _ hp0.2.2 (by simp), hp0.2.1,
        Int.add_zero, List.singleton_append, hc, splitFrom_symbol_cons sym hsym, ← hc]
      simpa [splitTier] using ih

/-- A cut happens only at a `sym` at depth zero. -/
theorem occursAtTop_of_hasCut (sym : Char) :
    ∀ (cs : List Char) (d : Int), hasCut sym d cs = true → OccursAtTop sym d cs
  | [], _, h => by simp [hasCut] at h
  | [_], _, h => by simp [hasCut] at h
  | c :: c' :: rest, d, h => by
      simp only [hasCut, Bool.or_eq_true, decide_eq_true_eq] at h
      rcases h with h | h
      · exact Or.inl h
      · exact Or.inr (occursAtTop_of_hasCut sym (c' :: rest) _ h)

/-- A text that `hasCut` says will be cut is cut into two parts or more. -/
theorem two_le_length_splitFrom_of_hasCut (sym : Char) :
    ∀ (cs : List Char) (d : Int) (cur : List Char), hasCut sym d cs = true →
      2 ≤ (splitFrom sym d cur cs).length
  | [], _, _, h => by simp [hasCut] at h
  | [_], _, _, h => by simp [hasCut] at h
  | c :: c' :: rest, d, cur, h => by
      simp only [hasCut, Bool.or_eq_true, decide_eq_true_eq] at h
      simp only [splitFrom]
      split
      · have hne := splitFrom_ne_nil sym (c' :: rest) (d + depthStep c) [] (List.cons_ne_nil _ _)
        have := List.length_pos_of_ne_nil hne
        simp only [List.length_cons]
        omega
      · rename_i hc
        exact two_le_length_splitFrom_of_hasCut sym (c' :: rest) _ _ (h.resolve_left hc)

/-- `hasCut` is exactly the test that the cutter makes two parts or more. -/
theorem hasCut_iff (sym : Char) (cs : List Char) :
    hasCut sym 0 cs = true ↔ 2 ≤ (splitTier sym cs).length := by
  refine ⟨two_le_length_splitFrom_of_hasCut sym cs 0 [], fun h => ?_⟩
  cases hc : hasCut sym 0 cs with
  | true => rfl
  | false =>
      have := length_splitFrom_le_one sym cs 0 [] hc
      unfold splitTier at h
      omega

/-! ### The builder, branch by branch -/

/-- A character is an operator symbol exactly when some operator writes it. -/
theorem isSymbol_iff {c : Char} : Operator.isSymbol c = true ↔ ∃ op : Operator, op.symbol = c := by
  constructor
  · intro h
    simp only [Operator.isSymbol, Bool.or_eq_true, beq_iff_eq] at h
    rcases h with ((rfl | rfl) | rfl) | rfl
    exacts [⟨.add, rfl⟩, ⟨.sub, rfl⟩, ⟨.mul, rfl⟩, ⟨.div, rfl⟩]
  · rintro ⟨op, rfl⟩
    cases op <;> rfl

/-- A text has an operator exactly when some operator's symbol is in it. -/
theorem hasOperator_iff {cs : List Char} : hasOperator cs = true ↔ ∃ op : Operator, op.symbol ∈ cs := by
  simp only [hasOperator, List.any_eq_true, isSymbol_iff]
  constructor
  · rintro ⟨c, hc, op, rfl⟩
    exact ⟨op, hc⟩
  · rintro ⟨op, hop⟩
    exact ⟨_, hop, op, rfl⟩

/-- A pair of parentheses is stripped exactly from a text that opens with `(`
and closes with `)`. -/
theorem stripParens?_eq_some_iff {cs inner : List Char} :
    stripParens? cs = some inner ↔ cs = '(' :: inner ++ [')'] := by
  constructor
  · intro h
    unfold stripParens? at h
    split at h
    · rename_i rest
      split at h
      · rename_i hl
        cases h
        rw [List.cons_append, List.dropLast_append_getLast? _ hl]
      · simp at h
    · simp at h
  · rintro rfl
    simp [stripParens?]

/-- A text without operators is a leaf at every tier. -/
theorem buildAt_leaf {cs : List Char} (h : hasOperator cs = false) (tier : Option Operator) :
    buildAt cs tier = .ok (.leaf (String.ofList cs)) := by
  rw [buildAt.eq_def, if_neg (by simp [h])]

/-- When every tier has been tried, enclosing parentheses are stripped ... -/
theorem buildAt_strip {cs inner : List Char} (h : hasOperator cs = true)
    (hs : stripParens? cs = some inner) :
    buildAt cs none = buildAt inner (some .sub) := by
  rw [buildAt, if_pos h]
  split <;> simp_all

/-- ... and without them the text is malformed. -/
theorem buildAt_malformed {cs : List Char} (h : hasOperator cs = true)
    (hs : stripParens? cs = none) :
    buildAt cs none = .error (.malformed (String.ofList cs)) := by
  rw [buildAt, if_pos h]
  split <;> simp_all

/-- A tier that cuts nothing passes the text to the next tier. -/
theorem buildAt_pass {cs : List Char} {op : Operator} (h : hasOperator cs = true)
    (hc : hasCut op.symbol 0 cs = false) :
    buildAt cs (some op) = buildAt cs op.next := by
  rw [buildAt, if_pos h]
  simp [hc]

/-- A tier that cuts makes a node of the parts, each built at the next tier;
the first part that fails gives the error. -/
theorem buildAt_cut {cs : List Char} {op : Operator} (h : hasOperator cs = true)
    (hc : hasCut op.symbol 0 cs = true) :
    buildAt cs (some op) =
      ((splitTier op.symbol cs).mapM (buildAt · op.next)).map (node (String.ofList cs) op) := by
  rw [buildAt, if_pos h]
  simp only [hc, Bool.not_true, Bool.false_eq_true, if_false]
  rw [dif_pos ((hasCut_iff _ _).1 hc),
    List.mapM_subtype (g := (buildAt · op.next)) (fun _ _ => rfl), List.unattach_attach]

/-- A node built by a cut holds the text that was cut, and its children are the
parts' trees. -/
theorem eq_node_of_buildAt_cut {cs : List Char} {op : Operator} {t : Expr}
    (hop : hasOperator cs = true) (hcut : hasCut op.symbol 0 cs = true)
    (hb : buildAt cs (some op) = .ok t) :
    ∃ ts, (splitTier op.symbol cs).mapM (buildAt · op.next) = .ok ts ∧
      t = .node (String.ofList cs) op ts := by
  rw [buildAt_cut hop hcut] at hb
  cases hm : (splitTier op.symbol cs).mapM (buildAt · op.next) with
  | error e =>
      rw [hm] at hb
      cases hb
  | ok ts =>
      simp only [hm, Except.map, Except.ok.injEq] at hb
      exact ⟨ts, rfl, hb.symm⟩

/-- Induction over a successful build. A property of a text, a tier and the
tree built from them holds of every build that succeeds when it holds of a leaf,
is kept by a stripped pair of parentheses and by a tier passed over, and holds
of a node whenever it holds of every part's tree. A malformed text builds
nothing, so it needs no case. -/
theorem buildAt_ok_induct (P : List Char → Option Operator → Expr → Prop)
    (leaf : ∀ cs tier, hasOperator cs = false → P cs tier (.leaf (String.ofList cs)))
    (strip : ∀ cs inner t, hasOperator cs = true → stripParens? cs = some inner →
      P inner (some .sub) t → P cs none t)
    (pass : ∀ cs op t, hasOperator cs = true → hasCut op.symbol 0 cs = false →
      P cs op.next t → P cs (some op) t)
    (cut : ∀ cs op ts, hasOperator cs = true → hasCut op.symbol 0 cs = true →
      (splitTier op.symbol cs).mapM (buildAt · op.next) = .ok ts →
      (∀ p ∈ splitTier op.symbol cs, ∀ c, buildAt p op.next = .ok c → P p op.next c) →
      P cs (some op) (.node (String.ofList cs) op ts)) :
    ∀ cs tier t, buildAt cs tier = .ok t → P cs tier t := by
  intro cs tier
  induction cs, tier using buildAt.induct with
  | case1 cs hop inner hs ih =>
      intro t hb
      rw [buildAt_strip hop hs] at hb
      exact strip cs inner t hop hs (ih t hb)
  | case2 cs hop hs =>
      intro t hb
      rw [buildAt_malformed hop hs] at hb
      cases hb
  | case3 cs hop op hcut ih =>
      intro t hb
      have hc : hasCut op.symbol 0 cs = false := by simpa using hcut
      rw [buildAt_pass hop hc] at hb
      exact pass cs op t hop hc (ih t hb)
  | case4 cs hop op hcut htwo ih =>
      intro t hb
      have hc : hasCut op.symbol 0 cs = true := by simpa using hcut
      obtain ⟨ts, hm, rfl⟩ := eq_node_of_buildAt_cut hop hc hb
      exact cut cs op ts hop hc hm fun p hp => ih ⟨p, hp⟩
  | case5 cs hop op hcut hnot ih =>
      -- `hasCut` always makes two parts or more
      exact absurd ((hasCut_iff _ _).1 (by simpa using hcut)) hnot
  | case6 cs tier hop =>
      intro t hb
      have hop' : hasOperator cs = false := by simpa using hop
      rw [buildAt_leaf hop'] at hb
      cases hb
      exact leaf cs tier hop'

end ArithQuiz.Expr
