import Mathlib.Data.List.Basic
import ArithQuiz.Quiz.Substitute

/-!
# `ArithQuiz.Proofs.Quiz.Tokens`: substitution token by token

In token mode a text is read as runs of ordinary characters separated by
operator symbols and parentheses (`isStructural`); each run is a token and is
replaced by `tokenValue`, the separators stay. `replaceTokens` reads the text
one character at a time, holding the token read so far. This file gives it the
laws of a map over tokens:

* `replaceTokens_append_structural`: at a separator the text falls apart,
  `f (A ++ c :: R) = f A ++ c :: f R`;
* `replaceTokens_append_run`: a run of ordinary characters only lengthens the
  token held;
* `replaceTokens_run`: a lone token is its value.

`tokens` names the runs themselves, with Mathlib's `List.splitOnP`, and
`mem_replaceTokens` says where each character of the result comes from.
-/

set_option autoImplicit false

namespace ArithQuiz

/-- The tokens of a text: its runs between operator symbols and parentheses,
empty runs included. -/
def tokens (cs : List Char) : List (List Char) := cs.splitOnP isStructural

theorem isStructural_symbol (op : Operator) : isStructural op.symbol = true := by
  cases op <;> rfl

theorem isStructural_iff (c : Char) :
    isStructural c = true ↔ c = '+' ∨ c = '-' ∨ c = '*' ∨ c = '/' ∨ c = '(' ∨ c = ')' := by
  simp [isStructural, Operator.isSymbol, or_assoc]

/-- No digit separates tokens. -/
theorem isStructural_of_isDigit {c : Char} (h : c.isDigit = true) : isStructural c = false := by
  rw [Bool.eq_false_iff, ne_eq, isStructural_iff]
  rintro (rfl | rfl | rfl | rfl | rfl | rfl) <;> exact absurd h (by decide)

section

variable (vars : List Variable)

/-- A run of ordinary characters is added to the token held. -/
theorem replaceTokens_append_run (tok run rest : List Char)
    (h : ∀ c ∈ run, isStructural c = false) :
    replaceTokens vars tok (run ++ rest) = replaceTokens vars (run.reverse ++ tok) rest := by
  induction run generalizing tok with
  | nil => rfl
  | cons c run ih =>
      have hc : isStructural c = false := h c (by simp)
      rw [List.cons_append, replaceTokens, if_neg (by simp [hc]),
        ih (c :: tok) fun d hd => h d (List.mem_cons_of_mem c hd)]
      simp

/-- A lone token is replaced by its value. -/
theorem replaceTokens_run (run : List Char) (h : ∀ c ∈ run, isStructural c = false) :
    replaceTokens vars [] run = tokenValue vars run := by
  have := replaceTokens_append_run vars [] run [] h
  rw [List.append_nil, List.append_nil] at this
  rw [this, replaceTokens, List.reverse_reverse]

/-- At a separator the text falls apart: what comes before it and what comes
after it are replaced on their own. -/
theorem replaceTokens_append_structural (tok A R : List Char) {c : Char}
    (hc : isStructural c = true) :
    replaceTokens vars tok (A ++ c :: R) = replaceTokens vars tok A ++ c :: replaceTokens vars [] R := by
  induction A generalizing tok with
  | nil => simp only [List.nil_append, replaceTokens, hc, if_true]
  | cons a A ih =>
      cases ha : isStructural a with
      | true => simp only [List.cons_append, replaceTokens, ha, if_true, ih, List.append_assoc]
      | false => simp only [List.cons_append, replaceTokens, ha, Bool.false_eq_true, if_false, ih]

/-- The value a token is replaced by, when a variable is named by it. -/
theorem tokenValue_of_find {tok : List Char} {y : Variable}
    (h : vars.find? (·.identifier == String.ofList tok) = some y) :
    tokenValue vars tok = y.value.toText.toList := by
  simp only [tokenValue, h]

/-- A token that names no variable stays. -/
theorem tokenValue_of_find_none {tok : List Char}
    (h : vars.find? (·.identifier == String.ofList tok) = none) :
    tokenValue vars tok = tok := by
  simp only [tokenValue, h]

/-- Each character of a token's replacement is a character of the token or of
a value. -/
theorem mem_tokenValue {tok : List Char} {c : Char} (h : c ∈ tokenValue vars tok) :
    c ∈ tok ∨ ∃ y ∈ vars, c ∈ y.value.toText.toList := by
  cases hf : vars.find? (·.identifier == String.ofList tok) with
  | none => exact .inl (by rwa [tokenValue_of_find_none vars hf] at h)
  | some y =>
      rw [tokenValue_of_find vars hf] at h
      exact .inr ⟨y, List.mem_of_find?_eq_some hf, h⟩

/-- Each character of the result is a character of the text, of the token
held, or of a value. -/
theorem mem_replaceTokens (tok cs : List Char) {c : Char} (h : c ∈ replaceTokens vars tok cs) :
    c ∈ cs ∨ c ∈ tok ∨ ∃ y ∈ vars, c ∈ y.value.toText.toList := by
  induction cs generalizing tok with
  | nil =>
      rcases mem_tokenValue vars h with h | h
      · exact .inr (.inl (List.mem_reverse.1 h))
      · exact .inr (.inr h)
  | cons d cs ih =>
      rw [replaceTokens] at h
      split at h
      · rcases List.mem_append.1 h with h | h
        · rcases mem_tokenValue vars h with h | h
          · exact .inr (.inl (List.mem_reverse.1 h))
          · exact .inr (.inr h)
        · rcases List.mem_cons.1 h with rfl | h
          · exact .inl (List.mem_cons_self ..)
          · rcases ih [] h with h | h | h
            · exact .inl (List.mem_cons_of_mem d h)
            · simp at h
            · exact .inr (.inr h)
      · rcases ih (d :: tok) h with h | h | h
        · exact .inl (List.mem_cons_of_mem d h)
        · rcases List.mem_cons.1 h with rfl | h
          · exact .inl (List.mem_cons_self ..)
          · exact .inr (.inl h)
        · exact .inr (.inr h)

end

/-- A token holds no separator. -/
theorem isStructural_of_mem_tokens {cs tok : List Char} (h : tok ∈ tokens cs) :
    ∀ c ∈ tok, isStructural c = false := by
  induction cs generalizing tok with
  | nil =>
      simp only [tokens, List.splitOnP_nil, List.mem_singleton] at h
      simp [h]
  | cons d cs ih =>
      rw [tokens, List.splitOnP_cons_eq_if_modifyHead] at h
      split at h
      · rcases List.mem_cons.1 h with rfl | h
        · simp
        · exact ih h
      · rename_i hd
        obtain ⟨t, ts, hts⟩ := List.exists_cons_of_ne_nil (List.splitOnP_ne_nil isStructural cs)
        rw [hts, List.modifyHead_cons] at h
        rcases List.mem_cons.1 h with rfl | h
        · intro c hc
          rcases List.mem_cons.1 hc with rfl | hc
          · simpa using hd
          · exact ih (by rw [tokens, hts]; exact List.mem_cons_self ..) c hc
        · exact ih (by rw [tokens, hts]; exact List.mem_cons_of_mem t h)

end ArithQuiz
