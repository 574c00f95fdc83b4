import Mathlib
import ArithQuiz.Proofs.Quiz.TokenTree

/-!
# `ArithQuiz.Proofs.Quiz.Literal`: when literal substitution is token substitution

Literal substitution replaces every occurrence of each identifier in the whole
text, one variable after another, so an earlier replacement could make or
break a match for a later identifier. Token substitution replaces each whole
token once. The two agree when no occurrence can be made or broken: every
identifier is non-empty and holds no separator, none lies inside another one
or inside a value (`LiteralSafe`), and every token of the text is an
identifier or holds none.

The argument works on characters, with `replaceEach` for the literal fold:

* `replaceAll_append_cons`: a pattern without the character `c` is replaced
  on each side of `c` separately, so the whole fold falls apart at every
  separator as token substitution does (`replaceEach_append_cons`);
* `replaceAll_of_not_isInfix`, `replaceAll_self`: a text without the pattern
  stays, and the pattern alone becomes the replacement;
* `replaceEach_token`: the fold replaces a token as `tokenValue` does. A
  token that is an identifier is met first by the first variable of that
  identifier, and later identifiers find nothing in its value; a token that
  holds no identifier stays.

The main statement is `literal_apply_eq_token_apply`, by induction on the
length of the text, one token and one separator at a time.
-/

set_option autoImplicit false

namespace ArithQuiz

/-! ### One pattern -/

section

variable {p : List Char} (r : List Char)

/-- A prefix of `X ++ c :: Y` that does not hold `c` is a prefix of `X`. -/
theorem prefix_of_prefix_append_cons {c : Char} (hc : c ∉ p) {X Y : List Char}
    (h : p <+: X ++ c :: Y) : p <+: X := by
  rcases le_or_gt p.length X.length with hle | hlt
  · exact List.prefix_of_prefix_length_le h (List.prefix_append X (c :: Y)) hle
  · -- a longer prefix reaches the position of `c`
    obtain ⟨k, hk⟩ : ∃ k, p.length - X.length = k + 1 := ⟨_, (Nat.succ_pred_eq_of_pos
      (Nat.sub_pos_of_lt hlt)).symm⟩
    have htake := List.prefix_iff_eq_take.1 h
    rw [List.take_append, hk, List.take_succ_cons] at htake
    exact absurd (htake ▸ List.mem_append_right _ (List.mem_cons_self ..)) hc

/-- A text that does not hold the pattern stays as it is. -/
theorem replaceAll_of_not_isInfix (hp : p ≠ []) {s : List Char} (h : ¬ p <:+: s) :
    replaceAll p r s = s := by
  obtain ⟨p₀, ps, rfl⟩ := List.exists_cons_of_ne_nil hp
  induction s with
  | nil => rw [replaceAll]
  | cons c cs ih =>
      -- the pattern starts neither here nor later
      have hhead : ¬ (p₀ :: ps).isPrefixOf (c :: cs) = true := fun hpre =>
        h (List.isPrefixOf_iff_prefix.1 hpre).isInfix
      rw [replaceAll, if_neg hhead, ih fun hin => h (List.infix_cons hin)]

/-- The pattern alone becomes the replacement. -/
theorem replaceAll_self (hp : p ≠ []) : replaceAll p r p = r := by
  obtain ⟨p₀, ps, rfl⟩ := List.exists_cons_of_ne_nil hp
  rw [replaceAll, if_pos (List.isPrefixOf_iff_prefix.2 (List.prefix_refl _)), List.drop_length,
    replaceAll, List.append_nil]

/-- A character the pattern does not hold cuts the text: each side is
replaced separately. -/
theorem replaceAll_append_cons (hp : p ≠ []) {c : Char} (hc : c ∉ p) (A B : List Char) :
    replaceAll p r (A ++ c :: B) = replaceAll p r A ++ c :: replaceAll p r B := by
  obtain ⟨p₀, ps, rfl⟩ := List.exists_cons_of_ne_nil hp
  -- the replacement drops a match at once, so the induction is on the length of `A`
  induction hlen : A.length using Nat.strong_induction_on generalizing A with
  | _ n ih =>
      cases A with
      | nil =>
          -- the pattern cannot start at `c`
          have hhead : ¬ (p₀ :: ps).isPrefixOf (c :: B) = true := fun hpre => by
            obtain ⟨rfl, -⟩ := List.cons_prefix_cons.1 (List.isPrefixOf_iff_prefix.1 hpre)
            exact hc (List.mem_cons_self ..)
          rw [List.nil_append, replaceAll.eq_3, if_neg hhead, replaceAll.eq_2, List.nil_append]
      | cons a A =>
          have hiff : (p₀ :: ps).isPrefixOf (a :: (A ++ c :: B)) = true ↔
              (p₀ :: ps).isPrefixOf (a :: A) = true := by
            rw [List.isPrefixOf_iff_prefix, List.isPrefixOf_iff_prefix, ← List.cons_append]
            exact ⟨prefix_of_prefix_append_cons hc, fun h => h.trans (List.prefix_append _ _)⟩
          rw [List.cons_append, replaceAll, replaceAll]
          by_cases hpre : (p₀ :: ps).isPrefixOf (a :: A) = true
          · -- a match inside `A`: after it, the rest of `A` is still before `c`
            have hle : ps.length ≤ A.length := by
              simpa using (List.isPrefixOf_iff_prefix.1 hpre).length_le
            rw [if_pos (hiff.2 hpre), if_pos hpre, List.drop_append_of_le_length hle,
              ih _ (by simp at hlen ⊢; omega) _ rfl, List.append_assoc]
          · rw [if_neg (mt hiff.1 hpre), if_neg hpre, ih _ (by simp at hlen; omega) _ rfl,
              List.cons_append]

end

/-! ### The literal fold -/

/-- Literal substitution on characters: each variable in turn replaces every
occurrence of its identifier by its value. -/
def replaceEach (vars : List Variable) (cs : List Char) : List Char :=
  vars.foldl (fun s v => replaceAll v.identifier.toList v.value.toText.toList s) cs

theorem literal_apply (s : String) (vars : List Variable) :
    Substitution.literal.apply s vars = String.ofList (replaceEach vars s.toList) := rfl

@[simp] theorem replaceEach_nil (cs : List Char) : replaceEach [] cs = cs := rfl

theorem replaceEach_cons (v : Variable) (vars : List Variable) (cs : List Char) :
    replaceEach (v :: vars) cs =
      replaceEach vars (replaceAll v.identifier.toList v.value.toText.toList cs) := rfl

/-- Variables that literal substitution can put in place token by token: every
identifier is non-empty and holds no separator, no identifier lies inside a
different one, and none lies inside the text of a value. -/
structure LiteralSafe (vars : List Variable) : Prop where
  nonempty : ∀ v ∈ vars, v.identifier.toList ≠ []
  noSeparator : ∀ v ∈ vars, ∀ c ∈ v.identifier.toList, isStructural c = false
  notInsideIdentifier : ∀ v ∈ vars, ∀ w ∈ vars, v.identifier ≠ w.identifier →
    ¬ v.identifier.toList <:+: w.identifier.toList
  notInsideValue : ∀ v ∈ vars, ∀ w ∈ vars, ¬ v.identifier.toList <:+: w.value.toText.toList

namespace LiteralSafe

variable {v : Variable} {vars : List Variable}

theorem of_cons (h : LiteralSafe (v :: vars)) : LiteralSafe vars where
  nonempty w hw := h.nonempty w (List.mem_cons_of_mem v hw)
  noSeparator w hw := h.noSeparator w (List.mem_cons_of_mem v hw)
  notInsideIdentifier w hw u hu := h.notInsideIdentifier w (List.mem_cons_of_mem v hw) u
    (List.mem_cons_of_mem v hu)
  notInsideValue w hw u hu := h.notInsideValue w (List.mem_cons_of_mem v hw) u
    (List.mem_cons_of_mem v hu)

end LiteralSafe

section

variable {vars : List Variable}

/-- The fold falls apart at a character that no identifier holds. -/
theorem replaceEach_append_cons (hne : ∀ v ∈ vars, v.identifier.toList ≠ []) {c : Char}
    (hc : ∀ v ∈ vars, c ∉ v.identifier.toList) (A B : List Char) :
    replaceEach vars (A ++ c :: B) = replaceEach vars A ++ c :: replaceEach vars B := by
  induction vars generalizing A B with
  | nil => rfl
  | cons v vars ih =>
      rw [replaceEach_cons, replaceEach_cons, replaceEach_cons,
        replaceAll_append_cons _ (hne v (List.mem_cons_self ..)) (hc v (List.mem_cons_self ..))]
      exact ih (fun w hw => hne w (List.mem_cons_of_mem v hw))
        (fun w hw => hc w (List.mem_cons_of_mem v hw)) _ _

/-- A text that holds no identifier stays as it is. -/
theorem replaceEach_of_not_isInfix (hne : ∀ v ∈ vars, v.identifier.toList ≠ []) {s : List Char}
    (h : ∀ v ∈ vars, ¬ v.identifier.toList <:+: s) : replaceEach vars s = s := by
  induction vars with
  | nil => rfl
  | cons v vars ih =>
      rw [replaceEach_cons, replaceAll_of_not_isInfix _ (hne v (List.mem_cons_self ..))
        (h v (List.mem_cons_self ..))]
      exact ih (fun w hw => hne w (List.mem_cons_of_mem v hw))
        (fun w hw => h w (List.mem_cons_of_mem v hw))

/-- A token that is an identifier is replaced by the value of the first
variable of that identifier: the variables before it do not lie inside it, and
the variables after it find nothing in its value. -/
theorem replaceEach_identifier (hV : LiteralSafe vars) {run : List Char}
    (hrun : ∃ w ∈ vars, w.identifier.toList = run) :
    replaceEach vars run = tokenValue vars run := by
  induction vars with
  | nil => simp at hrun
  | cons v vars ih =>
      by_cases hv : v.identifier.toList = run
      · -- the first variable of the identifier replaces the whole token
        have hfind : (v :: vars).find? (·.identifier == String.ofList run) = some v := by
          simp [← hv]
        rw [replaceEach_cons, ← hv, replaceAll_self _ (hV.nonempty v (List.mem_cons_self ..)),
          replaceEach_of_not_isInfix hV.of_cons.nonempty fun w hw =>
            hV.notInsideValue w (List.mem_cons_of_mem v hw) v (List.mem_cons_self ..),
          hv, tokenValue_of_find _ hfind]
      · -- an earlier variable of another identifier does not lie inside the token
        obtain ⟨w, hw, hwrun⟩ := hrun
        have hwv : w ≠ v := fun e => hv (e ▸ hwrun)
        have hw' : w ∈ vars := (List.mem_cons.1 hw).resolve_left hwv
        have hid : v.identifier ≠ w.identifier := fun e => hv (by rw [e, hwrun])
        have hout : ¬ v.identifier.toList <:+: run := hwrun ▸
          hV.notInsideIdentifier v (List.mem_cons_self ..) w hw hid
        have hskip : tokenValue (v :: vars) run = tokenValue vars run := by
          have hne : (v.identifier == String.ofList run) = false := by
            rw [beq_eq_false_iff_ne]
            intro e
            exact hv (by rw [e, String.toList_ofList])
          simp [tokenValue, hne]
        rw [replaceEach_cons, replaceAll_of_not_isInfix _ (hV.nonempty v (List.mem_cons_self ..)) hout,
          hskip, ih hV.of_cons ⟨w, hw', hwrun⟩]

/-- A token that is an identifier or holds none is replaced by the fold as
token substitution replaces it. -/
theorem replaceEach_token (hV : LiteralSafe vars) {run : List Char}
    (hrun : (∃ w ∈ vars, w.identifier.toList = run) ∨ ∀ v ∈ vars, ¬ v.identifier.toList <:+: run) :
    replaceEach vars run = tokenValue vars run := by
  rcases hrun with hrun | hnone
  · exact replaceEach_identifier hV hrun
  · -- no identifier is the token either
    have hfind : vars.find? (·.identifier == String.ofList run) = none := by
      refine List.find?_eq_none.2 fun v hv heq => hnone v hv ?_
      rw [beq_iff_eq.1 heq, String.toList_ofList]
    rw [replaceEach_of_not_isInfix hV.nonempty hnone, tokenValue_of_find_none _ hfind]

/-- On characters: the literal fold is token substitution when every token is
an identifier or holds none. -/
theorem replaceEach_eq_replaceTokens (hV : LiteralSafe vars) (cs : List Char)
    (hruns : ∀ run ∈ tokens cs,
      (∃ w ∈ vars, w.identifier.toList = run) ∨ ∀ v ∈ vars, ¬ v.identifier.toList <:+: run) :
    replaceEach vars cs = replaceTokens vars [] cs := by
  -- induction on the length: a token, a separator, and a shorter rest
  induction hlen : cs.length using Nat.strong_induction_on generalizing cs with
  | _ n ih =>
      rcases exists_first_structural cs with hrun | ⟨A, c, R, rfl, hA, hc⟩
      · have htok : tokens cs = [cs] := List.splitOnP_eq_singleton hrun
        rw [replaceTokens_run vars cs hrun]
        exact replaceEach_token hV (hruns cs (by simp [htok]))
      · have htok : tokens (A ++ c :: R) = A :: tokens R :=
          List.splitOnP_append_cons_of_forall_mem hA c hc R
        -- no identifier holds the separator
        have hnot : ∀ v ∈ vars, c ∉ v.identifier.toList := fun v hv hcv => by
          rw [hV.noSeparator v hv c hcv] at hc
          exact Bool.false_ne_true hc
        rw [replaceEach_append_cons hV.nonempty hnot, replaceTokens_append_structural vars [] A R hc,
          replaceTokens_run vars A hA, replaceEach_token hV (hruns A (by simp [htok])),
          ih R.length (by simp at hlen; omega) R (fun run hr => hruns run (by simp [htok, hr])) rfl]

end

/-- Literal and token substitution give the same text when every identifier
is non-empty and holds no operator symbol or parenthesis, no identifier lies
inside a different one or inside the text of a value, and every maximal run of
the text between operator symbols and parentheses is an identifier or holds
none. -/
theorem literal_apply_eq_token_apply {vars : List Variable} (hV : LiteralSafe vars) (s : String)
    (hruns : ∀ run ∈ tokens s.toList,
      (∃ w ∈ vars, w.identifier.toList = run) ∨ ∀ v ∈ vars, ¬ v.identifier.toList <:+: run) :
    Substitution.literal.apply s vars = Substitution.token.apply s vars := by
  rw [literal_apply, replaceEach_eq_replaceTokens hV s.toList hruns]
  rfl

/-- On `x*(yy-x)/7`, with two variables named `x`, both substitutions put the
first one's value in both places. -/
theorem literal_apply_eq_token_apply_xy :
    LiteralSafe [⟨"x", .ofInt 3⟩, ⟨"yy", .ofInt 12⟩, ⟨"x", .ofInt 5⟩] ∧
      (∀ run ∈ tokens "x*(yy-x)/7".toList,
        (∃ w ∈ ([⟨"x", .ofInt 3⟩, ⟨"yy", .ofInt 12⟩, ⟨"x", .ofInt 5⟩] : List Variable),
          w.identifier.toList = run) ∨
        ∀ v ∈ ([⟨"x", .ofInt 3⟩, ⟨"yy", .ofInt 12⟩, ⟨"x", .ofInt 5⟩] : List Variable),
          ¬ v.identifier.toList <:+: run) ∧
      Substitution.literal.apply "x*(yy-x)/7" [⟨"x", .ofInt 3⟩, ⟨"yy", .ofInt 12⟩, ⟨"x", .ofInt 5⟩] =
        Substitution.token.apply "x*(yy-x)/7" [⟨"x", .ofInt 3⟩, ⟨"yy", .ofInt 12⟩, ⟨"x", .ofInt 5⟩] := by
  -- a letter is in no value's text
  have hletter : ∀ (d : Decimal) (c : Char) (cs : List Char), c ∈ cs →
      ¬ (c.isDigit = true ∨ c = '.' ∨ c = '-') → ¬ cs <:+: d.toText.toList :=
    fun d c cs hmem hc hin => hc (Decimal.mem_toText d (hin.subset hmem))
  have htokens : tokens "x*(yy-x)/7".toList = [['x'], [], ['y', 'y'], ['x'], [], ['7']] := by
    rfl
  have hV : LiteralSafe [⟨"x", .ofInt 3⟩, ⟨"yy", .ofInt 12⟩, ⟨"x", .ofInt 5⟩] := by
    constructor
    · simp
    · simp [isStructural, Operator.isSymbol]
    · simp only [List.mem_cons, List.not_mem_nil, or_false, forall_eq_or_imp, forall_eq]
      decide
    · simp only [List.mem_cons, List.not_mem_nil, or_false, forall_eq_or_imp, forall_eq]
      refine ⟨⟨?_, ?_, ?_⟩, ⟨?_, ?_, ?_⟩, ?_, ?_, ?_⟩ <;>
        exact hletter _ _ _ (List.mem_cons_self ..) (by decide)
  have hruns : ∀ run ∈ tokens "x*(yy-x)/7".toList,
      (∃ w ∈ ([⟨"x", .ofInt 3⟩, ⟨"yy", .ofInt 12⟩, ⟨"x", .ofInt 5⟩] : List Variable),
        w.identifier.toList = run) ∨
      ∀ v ∈ ([⟨"x", .ofInt 3⟩, ⟨"yy", .ofInt 12⟩, ⟨"x", .ofInt 5⟩] : List Variable),
        ¬ v.identifier.toList <:+: run := by
    rw [htokens]
    simp
    decide
  exact ⟨hV, hruns, literal_apply_eq_token_apply hV _ hruns⟩

end ArithQuiz
