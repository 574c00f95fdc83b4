import Mathlib
import ArithQuiz.Proofs.Decimal.Numeral

/-!
# `ArithQuiz.Proofs.Decimal.Notation`: the texts that are decimals

A decimal is written `-?D+(.D+)?`: an optional minus sign, one or more ASCII
digits, and optionally a point followed by one or more digits. A `Notation`
holds the three parts of such a text, its digit runs proved to be digits, and
denotes `±(I · 10 ^ k + F) / 10 ^ k`, where `I` and `F` are the whole and the
fraction digits read in base ten and `k` is the number of fraction digits
(`Notation.value`). Nothing else is a decimal text: no plus sign, blank,
exponent, bare point, second point or second minus sign.

The reader accepts exactly these texts:

* `ofChars?_chars`: the text of a notation is read, to its value;
* `exists_notation_of_ofChars?`: a text that is read at all is the text of a
  notation, and was read to its value;
* `parse_accepts_exactly_notations`: `Decimal.parse s` gives `d` exactly when
  `s` is the text of a notation whose value is `d`, and otherwise fails with
  `invalidNumber s`, the whole text.

The unsigned half is `ArithQuiz.Proofs.Decimal.Numeral`; here one minus sign is
put in front of it.
-/

set_option autoImplicit false

namespace ArithQuiz.Decimal

/-- The parts of a text `-?D+(.D+)?`. -/
structure Notation where
  /-- Whether the text starts with a minus sign. -/
  negative : Bool
  /-- The digits before the point. -/
  whole : List Char
  /-- The digits after the point, none when the text has no point. -/
  fraction : List Char
  whole_digits : IsDigits whole
  fraction_digits : ∀ c ∈ fraction, c.isDigit = true

namespace Notation

/-- The text after the sign: the whole digits, then a point and the fraction
digits when there are any. -/
def unsigned (n : Notation) : List Char :=
  n.whole ++ if n.fraction = [] then [] else '.' :: n.fraction

/-- The text. -/
def chars (n : Notation) : List Char := if n.negative then '-' :: n.unsigned else n.unsigned

/-- The number the digits spell: `(I · 10 ^ k + F) / 10 ^ k`. -/
def magnitude (n : Notation) : ℚ :=
  ((digitsNat n.whole * 10 ^ n.fraction.length + digitsNat n.fraction : ℕ) : ℚ) /
    10 ^ n.fraction.length

/-- The number the text denotes. -/
def value (n : Notation) : ℚ := if n.negative then -n.magnitude else n.magnitude

end Notation

@[simp] theorem digitsNat_nil : digitsNat [] = 0 := rfl

/-- Digits written after others shift them by their own count. -/
theorem digitsNat_append (a b : List Char) :
    digitsNat (a ++ b) = digitsNat a * 10 ^ b.length + digitsNat b := by
  simp only [digitsNat, List.reverse_append, List.map_append, Nat.ofDigits_append, List.length_map,
    List.length_reverse]
  ring

namespace Notation

/-- The text after the sign is a numeral. -/
theorem numeral_unsigned (n : Notation) : Numeral n.unsigned := by
  by_cases hf : n.fraction = []
  · simpa [unsigned, hf] using Numeral.whole n.whole_digits
  · simpa [unsigned, hf] using Numeral.point n.whole_digits ⟨hf, n.fraction_digits⟩

/-- The numeral after the sign has the notation's magnitude. -/
theorem numeralValue_unsigned (n : Notation) : numeralValue n.unsigned = n.magnitude := by
  by_cases hf : n.fraction = []
  · have h := numeralValue_whole n.whole_digits
    simp only [unsigned, hf, if_true, List.append_nil] at h ⊢
    simp [h, magnitude, hf]
  · rw [unsigned, if_neg hf, numeralValue_point n.whole_digits ⟨hf, n.fraction_digits⟩,
      digitsNat_append, magnitude]

/-- Every numeral is the text after the sign of a notation, with either sign. -/
theorem exists_of_numeral (negative : Bool) {u : List Char} (h : Numeral u) :
    ∃ n : Notation, n.negative = negative ∧ n.unsigned = u ∧ n.magnitude = numeralValue u := by
  cases h with
  | whole hi =>
      refine ⟨⟨negative, _, [], hi, by simp⟩, rfl, by simp [unsigned], ?_⟩
      rw [numeralValue_whole hi]
      simp [magnitude]
  | point hi hf =>
      refine ⟨⟨negative, _, _, hi, hf.2⟩, rfl, by simp [unsigned, hf.1], ?_⟩
      rw [numeralValue_point hi hf, digitsNat_append, magnitude]

end Notation

/-! ### The sign -/

theorem ofDigits_true (i f : List Char) : ofDigits true i f = ⟨-(ofDigits false i f).toRat⟩ := rfl

/-- A minus sign before an unsigned text negates what the text reads as. -/
theorem ofChars?_minus_cons {body : List Char} (h : ∀ rest, body ≠ '-' :: rest) :
    ofChars? ('-' :: body) = (ofChars? body).map fun d => ⟨-d.toRat⟩ := by
  -- the sign test keeps `body` whole, so both sides scan the same digits
  simp only [ofChars?]
  split
  · split <;> simp [ofDigits_true]
  · split <;> simp [ofDigits_true]

/-- A second minus sign is no digit, so the text is refused. -/
theorem ofChars?_minus_minus (r : List Char) : ofChars? ('-' :: '-' :: r) = none := by
  simp only [ofChars?]
  split <;> simp [isDigitRun]

/-! ### Reading -/

/-- The text of a notation is read, to its value. -/
theorem ofChars?_chars (n : Notation) : ofChars? n.chars = some ⟨n.value⟩ := by
  have hread := ofChars?_of_numeral n.numeral_unsigned
  rw [n.numeralValue_unsigned] at hread
  cases hneg : n.negative with
  | false => simp [Notation.chars, Notation.value, hneg, hread]
  | true =>
      rw [Notation.chars, Notation.value, hneg, if_pos rfl, if_pos rfl,
        ofChars?_minus_cons n.numeral_unsigned.ne_minus_cons, hread, Option.map_some]

/-- A text that is read at all is the text of a notation, read to its value. -/
theorem exists_notation_of_ofChars? {cs : List Char} {d : Decimal} (h : ofChars? cs = some d) :
    ∃ n : Notation, n.chars = cs ∧ d.toRat = n.value := by
  -- an unsigned text that is read is a numeral, and a notation of either sign
  have unsigned : ∀ (negative : Bool) (u : List Char) (d' : Decimal), (∀ rest, u ≠ '-' :: rest) →
      ofChars? u = some d' →
        ∃ n : Notation, n.negative = negative ∧ n.unsigned = u ∧ d'.toRat = n.magnitude := by
    intro negative u d' hu hd'
    obtain ⟨hnum, rfl⟩ := numeral_of_ofChars? hu hd'
    obtain ⟨n, hn, hu', hv⟩ := Notation.exists_of_numeral negative hnum
    exact ⟨n, hn, hu', hv.symm⟩
  by_cases hminus : ∃ body, cs = '-' :: body
  · obtain ⟨body, rfl⟩ := hminus
    by_cases hdouble : ∃ r, body = '-' :: r
    · obtain ⟨r, rfl⟩ := hdouble
      rw [ofChars?_minus_minus] at h
      cases h
    · simp only [not_exists] at hdouble
      rw [ofChars?_minus_cons hdouble, Option.map_eq_some_iff] at h
      obtain ⟨d', hd', rfl⟩ := h
      obtain ⟨n, hn, hu, hv⟩ := unsigned true body d' hdouble hd'
      exact ⟨n, by simp [Notation.chars, hn, hu], by simp [Notation.value, hn, hv]⟩
  · simp only [not_exists] at hminus
    obtain ⟨n, hn, hu, hv⟩ := unsigned false cs d hminus h
    exact ⟨n, by simp [Notation.chars, hn, hu], by simp [Notation.value, hn, hv]⟩

theorem parse_eq_ok_iff (s : String) (d : Decimal) : parse s = .ok d ↔ ofText? s = some d := by
  unfold parse
  split <;> simp_all

theorem parse_eq_error_iff (s : String) (e : ExprError) :
    parse s = .error e ↔ ofText? s = none ∧ e = .invalidNumber s := by
  unfold parse
  split
  · simp_all
  · simp_all [eq_comm]

/-- A text spelled by a notation parses to the notation's value. -/
theorem parse_of_chars {s : String} {n : Notation} (h : s.toList = n.chars) :
    parse s = .ok ⟨n.value⟩ := by
  rw [parse_eq_ok_iff, ofText?, h, ofChars?_chars]

/-- `Decimal.parse s` gives `d` exactly when `s` is the text of a notation
`-?D+(.D+)?` whose value is `d`; otherwise it fails with `invalidNumber`,
carrying the whole text. -/
theorem parse_accepts_exactly_notations (s : String) :
    (∀ d : Decimal, parse s = .ok d ↔ ∃ n : Notation, n.chars = s.toList ∧ d.toRat = n.value) ∧
      ∀ e : ExprError,
        parse s = .error e ↔ e = .invalidNumber s ∧ ∀ n : Notation, n.chars ≠ s.toList := by
  have hok : ∀ d : Decimal,
      parse s = .ok d ↔ ∃ n : Notation, n.chars = s.toList ∧ d.toRat = n.value := by
    intro d
    rw [parse_eq_ok_iff]
    constructor
    · exact exists_notation_of_ofChars?
    · rintro ⟨n, hn, hd⟩
      rw [ofText?, ← hn, ofChars?_chars, ← hd]
  refine ⟨hok, fun e => ?_⟩
  rw [parse_eq_error_iff, and_comm]
  refine and_congr_right fun _ => ⟨fun hnone n hn => ?_, fun hnone => ?_⟩
  · rw [ofText?, ← hn, ofChars?_chars] at hnone
    cases hnone
  · -- a text that reads would be the text of a notation
    cases hread : ofText? s with
    | none => rfl
    | some d =>
        obtain ⟨n, hn, -⟩ := (hok d).1 ((parse_eq_ok_iff s d).2 hread)
        exact absurd hn (hnone n)

example : parse "-0.50" = .ok ⟨-1 / 2⟩ := by
  rw [parse_eq_ok_iff]
  cbv

end ArithQuiz.Decimal
