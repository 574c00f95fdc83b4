import ArithQuiz.Proofs.Quiz.Tokens
import ArithQuiz.Proofs.Expr.Solve

/-!
# `ArithQuiz.Proofs.Quiz.TokenTree`: token substitution keeps the tree

Putting values in place of tokens changes the length and the characters of a
text, but not how the builder reads it, as long as no identifier is blank and
no value is written with a minus sign (`Substitutable`). The builder decides
everything on operators and parentheses, which substitution keeps in their
order, and on whether a character is the last one, which it keeps too: a
value is never empty and holds no separator. Writing `F` for token
substitution on characters:

* `hasOperator_replaceTokens`, `all_isBlank_replaceTokens`: `F` keeps the
  operators and blankness of a text;
* `stripParens?_replaceTokens`: the inside of `F cs` is `F` of the inside of
  `cs`, and one has parentheses to strip exactly when the other has;
* `splitTier_replaceTokens`: the parts of `F cs` at a tier are `F` of the
  parts of `cs`.

The main statement is `build_token_apply`: the text with values builds to the
tree of the text with identifiers, every text in it substituted, and fails
exactly when that text fails, with the text of the error substituted. So the
identifier form and the value form of an equation are read alike.
-/

set_option autoImplicit false

namespace ArithQuiz

open ArithQuiz.Expr

/-! ### Texts in trees and errors -/

/-- The tree with each text passed through `f`, its shape and operators
kept. -/
def Expr.mapText (f : String → String) : Expr → Expr
  | .leaf t => .leaf (f t)
  | .node t op cs => .node (f t) op (cs.map (mapText f))

/-- The error with each text passed through `f`. -/
def ExprError.mapText (f : String → String) : ExprError → ExprError
  | .empty => .empty
  | .malformed t => .malformed (f t)
  | .invalidNumber t => .invalidNumber (f t)
  | .divisionByZero => .divisionByZero
  | .selfDivision n l r => .selfDivision (f n) (f l) (f r)
  | .selfSubtraction n => .selfSubtraction (f n)
  | .negativeResult n v => .negativeResult (f n) v
  | .decimalResult n v => .decimalResult (f n) v
  | .outOfRange v lo hi => .outOfRange v lo hi
  | .fractionalSolution v => .fractionalSolution v

/-! ### Tokens and separators -/

/-- No separator is blank. -/
theorem isBlank_of_isStructural {c : Char} (h : isStructural c = true) : Text.isBlank c = false := by
  rcases (isStructural_iff c).1 h with rfl | rfl | rfl | rfl | rfl | rfl <;> decide

/-- A text is one token, or a token followed by a separator and the rest. -/
theorem exists_first_structural :
    ∀ cs : List Char, (∀ c ∈ cs, isStructural c = false) ∨
      ∃ A c R, cs = A ++ c :: R ∧ (∀ x ∈ A, isStructural x = false) ∧ isStructural c = true
  | [] => .inl (by simp)
  | d :: cs => by
      cases hd : isStructural d with
      | true => exact .inr ⟨[], d, cs, rfl, by simp, hd⟩
      | false =>
          rcases exists_first_structural cs with h | ⟨A, c, R, rfl, hA, hc⟩
          · refine .inl fun x hx => ?_
            rcases List.mem_cons.1 hx with rfl | hx
            · exact hd
            · exact h x hx
          · refine .inr ⟨d :: A, c, R, rfl, fun x hx => ?_, hc⟩
            rcases List.mem_cons.1 hx with rfl | hx
            · exact hd
            · exact hA x hx

/-- A text is one token, or the rest followed by a separator and a token. -/
theorem exists_last_structural (cs : List Char) :
    (∀ c ∈ cs, isStructural c = false) ∨
      ∃ R c A, cs = R ++ c :: A ∧ isStructural c = true ∧ ∀ x ∈ A, isStructural x = false := by
  rcases exists_first_structural cs.reverse with h | ⟨A, c, R, hcs, hA, hc⟩
  · exact .inl fun x hx => h x (List.mem_reverse.2 hx)
  · refine .inr ⟨R.reverse, c, A.reverse, ?_, hc, fun x hx => hA x (List.mem_reverse.1 hx)⟩
    rw [← List.reverse_reverse cs, hcs]
    simp

/-- What comes before a token: nothing, or a separator. -/
def OpensToken (P : List Char) : Prop := ∀ c ∈ P.getLast?, isStructural c = true

/-- Only separators change the depth. -/
theorem depthStep_of_not_structural {c : Char} (h : isStructural c = false) : depthStep c = 0 := by
  have hopen : c ≠ '(' := fun e => absurd (e ▸ h) (by decide)
  have hclose : c ≠ ')' := fun e => absurd (e ▸ h) (by decide)
  simp [depthStep, hopen, hclose]

/-- A token leaves the depth as it is. -/
theorem depth_of_run {A : List Char} (hA : ∀ c ∈ A, isStructural c = false) : depth A = 0 :=
  depth_eq_zero_of_no_parens A fun c hc => depthStep_of_not_structural (hA c hc)

/-- A token holds no separator to cut at. -/
theorem not_occursAtTop_of_run {sym : Char} (hsym : isStructural sym = true) {A : List Char}
    (hA : ∀ c ∈ A, isStructural c = false) (d : Int) : ¬ OccursAtTop sym d A := fun h =>
  absurd (hA sym (mem_of_occursAtTop h)) (by rw [hsym]; decide)

/-- `mapM` over mapped inputs, when each result is mapped alike. -/
theorem mapM_map_of_mapped {α β ε : Type} (F : α → α) (g : α → Except ε β) (φ : β → β)
    (ψ : ε → ε) :
    ∀ ps : List α, (∀ p ∈ ps, g (F p) = ((g p).map φ).mapError ψ) →
      (ps.map F).mapM g = ((ps.mapM g).map (List.map φ)).mapError ψ
  | [], _ => rfl
  | p :: ps, h => by
      have hrest := mapM_map_of_mapped F g φ ψ ps fun q hq => h q (List.mem_cons_of_mem p hq)
      rw [List.map_cons, List.mapM_cons, List.mapM_cons, h p List.mem_cons_self, hrest]
      cases g p with
      | error e => rfl
      | ok b =>
          cases ps.mapM g with
          | error e => rfl
          | ok bs => rfl

/-- Token substitution of a text as a string is its substitution as
characters. -/
theorem token_apply_ofList (cs : List Char) (vars : List Variable) :
    Substitution.token.apply (String.ofList cs) vars = String.ofList (replaceTokens vars [] cs) := by
  simp only [Substitution.apply, String.toList_ofList]

/-! ### Variables that keep the shape of a text -/

/-- Variables whose values can stand for tokens without changing how a text
is read: no identifier is blank, so blank texts and empty tokens stay as they
are, and no value is written with a minus sign, so a value is digits and
perhaps a point. -/
structure Substitutable (vars : List Variable) : Prop where
  identifiers : ∀ y ∈ vars, Text.isBlankText y.identifier = false
  values : ∀ y ∈ vars, '-' ∉ y.value.toText.toList

section

variable {vars : List Variable} (hV : Substitutable vars)
include hV

/-- A value holds no separator. -/
theorem Substitutable.not_structural {y : Variable} (hy : y ∈ vars) {c : Char}
    (hc : c ∈ y.value.toText.toList) : isStructural c = false := by
  rcases Decimal.mem_toText _ hc with hd | rfl | rfl
  · exact isStructural_of_isDigit hd
  · rfl
  · exact absurd hc (hV.values y hy)

/-- The empty token names no variable. -/
theorem tokenValue_nil : tokenValue vars [] = [] := by
  refine tokenValue_of_find_none vars (List.find?_eq_none.2 fun y hy h => ?_)
  have hblank := hV.identifiers y hy
  rw [beq_iff_eq.1 h] at hblank
  exact absurd hblank (by decide)

/-- The value of a token holds no separator. -/
theorem tokenValue_not_structural {A : List Char} (hA : ∀ c ∈ A, isStructural c = false) :
    ∀ c ∈ tokenValue vars A, isStructural c = false := by
  intro c hc
  rcases mem_tokenValue vars hc with hc | ⟨y, hy, hc⟩
  · exact hA c hc
  · exact hV.not_structural hy hc

omit hV in
/-- A token that is not empty has a value that is not empty. -/
theorem tokenValue_ne_nil {A : List Char} (hA : A ≠ []) : tokenValue vars A ≠ [] := by
  cases hf : vars.find? (·.identifier == String.ofList A) with
  | none => rwa [tokenValue_of_find_none vars hf]
  | some y =>
      rw [tokenValue_of_find vars hf]
      obtain ⟨c, hc, -⟩ := Decimal.exists_isDigit_toText y.value
      exact List.ne_nil_of_mem hc

theorem replaceTokens_nil_nil : replaceTokens vars [] [] = [] := by
  rw [replaceTokens, List.reverse_nil, tokenValue_nil hV]

/-- A separator in front stays in front. -/
theorem replaceTokens_structural_cons {c : Char} (hc : isStructural c = true) (R : List Char) :
    replaceTokens vars [] (c :: R) = c :: replaceTokens vars [] R := by
  have := replaceTokens_append_structural vars [] [] R hc
  rwa [List.nil_append, replaceTokens_nil_nil hV, List.nil_append] at this

/-- A separator at the end stays at the end. -/
theorem replaceTokens_append_structural_nil (A : List Char) {c : Char}
    (hc : isStructural c = true) :
    replaceTokens vars [] (A ++ [c]) = replaceTokens vars [] A ++ [c] := by
  rw [replaceTokens_append_structural vars [] A [] hc, replaceTokens_nil_nil hV]

/-- After a token boundary, the text is substituted on its own. -/
theorem replaceTokens_append_of_opensToken {P : List Char} (hP : OpensToken P) (X : List Char) :
    replaceTokens vars [] (P ++ X) = replaceTokens vars [] P ++ replaceTokens vars [] X := by
  rcases List.eq_nil_or_concat' P with rfl | ⟨P', c, rfl⟩
  · rw [List.nil_append, replaceTokens_nil_nil hV, List.nil_append]
  · have hc : isStructural c = true := hP c (by simp)
    rw [List.append_assoc, List.singleton_append, replaceTokens_append_structural vars [] P' X hc,
      replaceTokens_append_structural_nil hV P' hc, List.append_assoc, List.singleton_append]

/-- A separator is in the substituted text exactly when it is in the text. -/
theorem mem_replaceTokens_structural {c : Char} (hc : isStructural c = true) (cs : List Char) :
    c ∈ replaceTokens vars [] cs ↔ c ∈ cs := by
  constructor
  · intro h
    rcases mem_replaceTokens vars [] cs h with h | h | ⟨y, hy, h⟩
    · exact h
    · exact absurd h List.not_mem_nil
    · exact absurd hc (by rw [hV.not_structural hy h]; decide)
  · intro h
    obtain ⟨A, R, rfl⟩ := List.append_of_mem h
    rw [replaceTokens_append_structural vars [] A R hc]
    exact List.mem_append_right _ List.mem_cons_self

omit hV in
/-- A token and a separator, then the rest. -/
theorem replaceTokens_token_append {A : List Char} (hA : ∀ c ∈ A, isStructural c = false) {c : Char}
    (hc : isStructural c = true) (R : List Char) :
    replaceTokens vars [] (A ++ c :: R) = tokenValue vars A ++ c :: replaceTokens vars [] R := by
  rw [replaceTokens_append_structural vars [] A R hc, replaceTokens_run vars A hA]

/-- Only the empty text is substituted to the empty text. -/
theorem replaceTokens_eq_nil_iff (cs : List Char) : replaceTokens vars [] cs = [] ↔ cs = [] := by
  refine ⟨fun h => ?_, fun h => h ▸ replaceTokens_nil_nil hV⟩
  rcases exists_first_structural cs with hrun | ⟨A, c, R, rfl, hA, hc⟩
  · by_contra hne
    exact tokenValue_ne_nil hne (replaceTokens_run vars _ hrun ▸ h)
  · rw [replaceTokens_token_append hA hc] at h
    simp at h

/-! ### The builder's tests on a substituted text -/

theorem hasOperator_replaceTokens (cs : List Char) :
    hasOperator (replaceTokens vars [] cs) = hasOperator cs := by
  rw [Bool.eq_iff_iff, hasOperator_iff, hasOperator_iff]
  exact exists_congr fun op => mem_replaceTokens_structural hV (isStructural_symbol op) cs

/-- A text is blank exactly when its substitution is: a blank text is one
token that names no variable, and a value is not blank. -/
theorem all_isBlank_replaceTokens (cs : List Char) :
    (replaceTokens vars [] cs).all Text.isBlank = cs.all Text.isBlank := by
  rcases exists_first_structural cs with hrun | ⟨A, c, R, rfl, hA, hc⟩
  · rw [replaceTokens_run vars _ hrun]
    cases hf : vars.find? (·.identifier == String.ofList cs) with
    | none => rw [tokenValue_of_find_none vars hf]
    | some y =>
        -- the token is the identifier, and neither it nor the value is blank
        have hid : y.identifier = String.ofList cs := by simpa using List.find?_some hf
        have hy : y ∈ vars := List.mem_of_find?_eq_some hf
        have hblank := hV.identifiers y hy
        rw [Text.isBlankText, hid, String.toList_ofList] at hblank
        rw [tokenValue_of_find vars hf, hblank, List.all_eq_false]
        obtain ⟨d, hd, hdigit⟩ := Decimal.exists_isDigit_toText y.value
        exact ⟨d, hd, by rw [isBlank_of_isDigit hdigit]; decide⟩
  · -- the separator is in both, and it is not blank
    have hnot : ∀ l : List Char, c ∈ l → l.all Text.isBlank = false := fun l hl =>
      List.all_eq_false.2 ⟨c, hl, by rw [isBlank_of_isStructural hc]; decide⟩
    rw [hnot _ ((mem_replaceTokens_structural hV hc _).2 (by simp)), hnot _ (by simp)]

/-- A substituted text that starts with a separator comes from a text that
starts with it. -/
theorem eq_cons_of_replaceTokens {cs X : List Char} {c : Char} (hc : isStructural c = true)
    (h : replaceTokens vars [] cs = c :: X) : ∃ R, cs = c :: R ∧ replaceTokens vars [] R = X := by
  rcases exists_first_structural cs with hrun | ⟨A, d, R, rfl, hA, hd⟩
  · have hmem : c ∈ tokenValue vars cs := replaceTokens_run vars _ hrun ▸ h ▸ List.mem_cons_self
    exact absurd (tokenValue_not_structural hV hrun c hmem) (by rw [hc]; decide)
  · rw [replaceTokens_token_append hA hd] at h
    cases A with
    | nil =>
        rw [tokenValue_nil hV, List.nil_append, List.cons.injEq] at h
        obtain ⟨rfl, hR⟩ := h
        exact ⟨R, rfl, hR⟩
    | cons a A =>
        -- a token in front would put a character that is no separator first
        obtain ⟨t, T, ht⟩ := List.exists_cons_of_ne_nil (tokenValue_ne_nil (List.cons_ne_nil a A))
        rw [ht, List.cons_append, List.cons.injEq] at h
        have hmem : t ∈ tokenValue vars (a :: A) := ht ▸ List.mem_cons_self
        rw [h.1] at hmem
        exact absurd (tokenValue_not_structural hV hA c hmem) (by rw [hc]; decide)

/-- A substituted text that ends with a separator comes from a text that ends
with it. -/
theorem eq_concat_of_replaceTokens {cs X : List Char} {c : Char} (hc : isStructural c = true)
    (h : replaceTokens vars [] cs = X ++ [c]) : ∃ R, cs = R ++ [c] ∧ replaceTokens vars [] R = X := by
  rcases exists_last_structural cs with hrun | ⟨R, d, A, rfl, hd, hA⟩
  · have hmem : c ∈ tokenValue vars cs := replaceTokens_run vars _ hrun ▸ h ▸ by simp
    exact absurd (tokenValue_not_structural hV hrun c hmem) (by rw [hc]; decide)
  · rw [replaceTokens_append_structural vars [] R A hd, replaceTokens_run vars _ hA] at h
    rcases List.eq_nil_or_concat' A with rfl | ⟨A', a, rfl⟩
    · rw [tokenValue_nil hV] at h
      obtain ⟨hR, hdc⟩ := List.append_inj' h rfl
      obtain rfl : d = c := List.singleton_inj.1 hdc
      exact ⟨R, rfl, hR⟩
    · -- a token at the end would put a character that is no separator last
      obtain ⟨T, t, ht⟩ := (List.eq_nil_or_concat' (tokenValue vars (A' ++ [a]))).resolve_left
        (tokenValue_ne_nil (by simp))
      rw [ht, ← List.cons_append, ← List.append_assoc] at h
      obtain ⟨-, htc⟩ := List.append_inj' h rfl
      have hmem : t ∈ tokenValue vars (A' ++ [a]) := ht ▸ by simp
      rw [List.singleton_inj.1 htc] at hmem
      exact absurd (tokenValue_not_structural hV hA c hmem) (by rw [hc]; decide)

/-- Parentheses are stripped from a substituted text exactly when they are
stripped from the text, and the inside is substituted. -/
theorem stripParens?_replaceTokens (cs : List Char) :
    stripParens? (replaceTokens vars [] cs) = (stripParens? cs).map (replaceTokens vars []) := by
  cases hs : stripParens? cs with
  | some inner =>
      rw [stripParens?_eq_some_iff] at hs
      rw [Option.map_some, stripParens?_eq_some_iff, hs, List.cons_append,
        replaceTokens_structural_cons hV (by decide),
        replaceTokens_append_structural_nil hV inner (by decide), List.cons_append]
  | none =>
      cases hs' : stripParens? (replaceTokens vars [] cs) with
      | none => rfl
      | some X =>
          -- a stripped substitution would give parentheses to the text itself
          rw [stripParens?_eq_some_iff, List.cons_append] at hs'
          obtain ⟨R, rfl, hR⟩ := eq_cons_of_replaceTokens hV (by decide) hs'
          obtain ⟨R', rfl, -⟩ := eq_concat_of_replaceTokens hV (by decide) hR
          have hsome : stripParens? ('(' :: (R' ++ [')'])) = some R' :=
            stripParens?_eq_some_iff.2 List.cons_append.symm
          rw [hsome] at hs
          cases hs

/-- The cutter on a substituted text, started after a token boundary with the
part so far substituted, cuts where it cuts the text and gives the substituted
parts. The induction takes one token and its separator at a time: within a
token there is nothing to cut, and at the separator both texts decide alike,
with the same depth, and both or neither at their last character. -/
theorem splitFrom_replaceTokens {sym : Char} (hsym : isStructural sym = true) (cs : List Char) :
    ∀ (d : Int) (pre : List Char), OpensToken pre →
      splitFrom sym d (replaceTokens vars [] pre).reverse (replaceTokens vars [] cs) =
        (splitFrom sym d pre.reverse cs).map (replaceTokens vars []) := by
  induction hlen : cs.length using Nat.strong_induction_on generalizing cs with
  | _ n ih =>
    intro d pre hpre
    rcases exists_first_structural cs with hrun | ⟨A, c, R, rfl, hA, hc⟩
    · -- one token: it closes the open part
      rcases eq_or_ne cs [] with rfl | hne
      · rw [replaceTokens_nil_nil hV]
        rfl
      · have hF := replaceTokens_run vars cs hrun
        rw [hF, splitFrom_of_not_occursAtTop sym d _ (tokenValue_ne_nil hne)
            (not_occursAtTop_of_run hsym (tokenValue_not_structural hV hrun) d),
          splitFrom_of_not_occursAtTop sym d _ hne (not_occursAtTop_of_run hsym hrun d),
          List.map_singleton, List.reverse_reverse, List.reverse_reverse,
          replaceTokens_append_of_opensToken hV hpre, hF]
    · -- a token, read through, then a separator
      have hpart : replaceTokens vars [] (pre ++ A) =
          replaceTokens vars [] pre ++ tokenValue vars A := by
        rw [replaceTokens_append_of_opensToken hV hpre, replaceTokens_run vars A hA]
      rw [replaceTokens_token_append hA hc,
        splitFrom_append_of_not_occursAtTop sym _ d _ _
          (not_occursAtTop_of_run hsym (tokenValue_not_structural hV hA) d) (List.cons_ne_nil _ _),
        splitFrom_append_of_not_occursAtTop sym _ d _ _ (not_occursAtTop_of_run hsym hA d)
          (List.cons_ne_nil _ _),
        depth_of_run hA, depth_of_run (tokenValue_not_structural hV hA), Int.add_zero,
        ← List.reverse_append, ← List.reverse_append, ← hpart]
      cases R with
      | nil =>
          -- the separator is the last character
          rw [replaceTokens_nil_nil hV]
          simp only [splitFrom, List.map_singleton, List.reverse_cons, List.reverse_reverse]
          rw [replaceTokens_append_structural_nil hV _ hc]
      | cons r R =>
          obtain ⟨r', R', hR⟩ := List.exists_cons_of_ne_nil
            ((replaceTokens_eq_nil_iff hV (r :: R)).not.2 (List.cons_ne_nil r R))
          have hshorter : (r :: R).length < n := by
            rw [← hlen]
            simp only [List.length_append, List.length_cons]
            omega
          rw [hR]
          simp only [splitFrom]
          rw [← hR]
          by_cases hcut : c = sym ∧ d + depthStep c = 0
          · -- a cut: the part so far is closed, and the rest starts afresh
            have ih := ih _ hshorter (r :: R) rfl (d + depthStep c) [] (by simp [OpensToken])
            rw [replaceTokens_nil_nil hV, List.reverse_nil] at ih
            rw [if_pos hcut, if_pos hcut, List.map_cons, List.reverse_reverse, List.reverse_reverse, ih]
          · -- no cut: the separator joins the part, which now ends at a boundary
            have ih := ih _ hshorter (r :: R) rfl (d + depthStep c) (pre ++ A ++ [c])
              (by simp [OpensToken, hc])
            rw [replaceTokens_append_structural_nil hV _ hc, List.reverse_append,
              List.reverse_append] at ih
            rw [if_neg hcut, if_neg hcut]
            simpa using ih

/-- The parts of a substituted text at a tier are the substituted parts. -/
theorem splitTier_replaceTokens {sym : Char} (hsym : isStructural sym = true) (cs : List Char) :
    splitTier sym (replaceTokens vars [] cs) = (splitTier sym cs).map (replaceTokens vars []) := by
  have := splitFrom_replaceTokens hV hsym cs 0 [] (by simp [OpensToken])
  rwa [replaceTokens_nil_nil hV, List.reverse_nil] at this

theorem hasCut_replaceTokens {sym : Char} (hsym : isStructural sym = true) (cs : List Char) :
    hasCut sym 0 (replaceTokens vars [] cs) = hasCut sym 0 cs := by
  rw [Bool.eq_iff_iff, hasCut_iff, hasCut_iff, splitTier_replaceTokens hV hsym, List.length_map]

/-- The builder, at every tier, on a substituted text: the tree of the text
with every text substituted, or its error with the text substituted. The
induction follows the builder's own recursion. -/
theorem buildAt_replaceTokens (cs : List Char) (tier : Option Operator) :
    buildAt (replaceTokens vars [] cs) tier =
      ((buildAt cs tier).map (Expr.mapText (Substitution.token.apply · vars))).mapError
        (ExprError.mapText (Substitution.token.apply · vars)) := by
  induction cs, tier using buildAt.induct with
  | case1 cs hop inner hs ih =>
      have hop' := (hasOperator_replaceTokens hV cs).trans hop
      have hs' : stripParens? (replaceTokens vars [] cs) = some (replaceTokens vars [] inner) := by
        rw [stripParens?_replaceTokens hV, hs]
        rfl
      rw [buildAt_strip hop' hs', buildAt_strip hop hs, ih]
  | case2 cs hop hs =>
      have hop' := (hasOperator_replaceTokens hV cs).trans hop
      have hs' : stripParens? (replaceTokens vars [] cs) = none := by
        rw [stripParens?_replaceTokens hV, hs]
        rfl
      rw [buildAt_malformed hop' hs', buildAt_malformed hop hs]
      simp only [Except.map, Except.mapError, ExprError.mapText, token_apply_ofList]
  | case3 cs hop op hcut ih =>
      have hcut' : hasCut op.symbol 0 cs = false := by simpa using hcut
      have hop' := (hasOperator_replaceTokens hV cs).trans hop
      rw [buildAt_pass hop' ((hasCut_replaceTokens hV (isStructural_symbol op) cs).trans hcut'),
        buildAt_pass hop hcut', ih]
  | case4 cs hop op hcut htwo ih =>
      have hcut' : hasCut op.symbol 0 cs = true := by simpa using hcut
      have hop' := (hasOperator_replaceTokens hV cs).trans hop
      rw [buildAt_cut hop' ((hasCut_replaceTokens hV (isStructural_symbol op) cs).trans hcut'),
        buildAt_cut hop hcut', splitTier_replaceTokens hV (isStructural_symbol op),
        mapM_map_of_mapped _ _ _ _ _ fun p hp => ih ⟨p, hp⟩]
      cases (splitTier op.symbol cs).mapM (buildAt · op.next) with
      | error e => rfl
      | ok ts => simp only [Except.map, Except.mapError, Expr.mapText, token_apply_ofList]
  | case5 cs hop op hcut hnot ih =>
      -- `hasCut` always makes two parts or more
      exact absurd ((hasCut_iff _ _).1 (by simpa using hcut)) hnot
  | case6 cs tier hop =>
      have hop' : hasOperator cs = false := by simpa using hop
      rw [buildAt_leaf ((hasOperator_replaceTokens hV cs).trans hop'), buildAt_leaf hop']
      simp only [Except.map, Except.mapError, Expr.mapText, token_apply_ofList]

end

/-- Token substitution keeps the tree: with variables whose identifiers are
not blank and whose values are written without a minus sign, the substituted
text builds to the tree of the text with every text in it substituted, and
fails exactly when the text fails, with the text of a malformed part
substituted. -/
theorem build_token_apply {vars : List Variable} (hV : Substitutable vars) (s : String) :
    build (Substitution.token.apply s vars) =
      ((build s).map (Expr.mapText (Substitution.token.apply · vars))).mapError
        (ExprError.mapText (Substitution.token.apply · vars)) := by
  have happly : (Substitution.token.apply s vars).toList = replaceTokens vars [] s.toList := by
    simp only [Substitution.apply, String.toList_ofList]
  rw [build, build, happly, buildChars, buildChars, all_isBlank_replaceTokens hV]
  split
  · rfl
  · exact buildAt_replaceTokens hV s.toList (some .sub)

theorem build_token_apply_difference :
    Substitutable [⟨"x", .ofInt 5⟩, ⟨"y", .ofInt 2⟩] ∧
      build (Substitution.token.apply "(x-y)*x" [⟨"x", .ofInt 5⟩, ⟨"y", .ofInt 2⟩]) =
        ((build "(x-y)*x").map
            (Expr.mapText (Substitution.token.apply · [⟨"x", .ofInt 5⟩, ⟨"y", .ofInt 2⟩]))).mapError
          (ExprError.mapText (Substitution.token.apply · [⟨"x", .ofInt 5⟩, ⟨"y", .ofInt 2⟩])) := by
  have hunsigned : ∀ n : ℕ, '-' ∉ (Decimal.ofInt n).toText.toList := fun n h => by
    rw [Decimal.toText_ofInt, if_neg (by omega), List.nil_append] at h
    exact absurd (Decimal.isDigit_of_mem_natText _ _ h) (by decide)
  have hV : Substitutable [⟨"x", .ofInt 5⟩, ⟨"y", .ofInt 2⟩] := by
    constructor
    · intro y hy
      rcases List.mem_pair.1 hy with rfl | rfl <;> decide
    · intro y hy
      rcases List.mem_pair.1 hy with rfl | rfl
      · exact hunsigned 5
      · exact hunsigned 2
  exact ⟨hV, build_token_apply hV "(x-y)*x"⟩

end ArithQuiz
