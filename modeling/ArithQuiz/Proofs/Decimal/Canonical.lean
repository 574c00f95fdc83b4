import Mathlib
import ArithQuiz.Proofs.Decimal.Notation

/-!
# `ArithQuiz.Proofs.Decimal.Canonical`: the text of a decimal

A decimal `d` is written at `fractionDigits` places: its magnitude is scaled by
`10 ^ fractionDigits` and rounded half away from zero, `S = ⌊|d| · 10 ^ 68 + 1/2⌋`
(`scaledMagnitude_eq_floor`), and the text is the notation of `S`
(`Notation.ofScaled`): the digits of `S / 10 ^ 68`, then the last 68 digits of
`S` with their trailing zeros dropped, after a minus sign when `d` is negative
and `S` is not zero (`toList_toText`). Reading the text back gives
`Decimal.rounded d = sgn d · S / 10 ^ 68` (`parse_toText`).

The text is canonical (`Notation.Canonical`): no leading zero in the whole
part unless it is `0`, at most 68 fraction digits and no trailing zero among
them, and a minus sign only on a number below zero. The main statement,
`toText_canonical_rounded`, gathers what follows: a decimal reads back as
itself exactly when its denominator divides `10 ^ 68`, writing what was read
gives the same text again, and two decimals have the same text exactly when
they round to the same value.

The first section is about the digits of natural numbers: the writer's
eighteen-digit chunks spell the number's decimal digits (`toList_natText`).
-/

set_option autoImplicit false

namespace ArithQuiz.Decimal

/-! ### Digits of natural numbers -/

/-- A positive number is not written with a leading zero. -/
theorem head?_toDigits_ne_zero {n : ℕ} (hn : 0 < n) : (Nat.toDigits 10 n).head? ≠ some '0' := by
  induction n using Nat.strong_induction_on with
  | _ n ih =>
      rw [Nat.toDigits_eq_if (by decide)]
      split
      · simp only [List.head?_cons, ne_eq, Option.some.injEq, Nat.digitChar_eq_zero]
        omega
      · -- the leading digits are those of `n / 10`, which is positive
        obtain ⟨c, cs, hc⟩ := List.exists_cons_of_ne_nil (Nat.toDigits_ne_nil (n := n / 10) (b := 10))
        have hhead := ih (n / 10) (by omega) (by omega)
        rw [hc] at hhead ⊢
        simpa using hhead

/-- The digits of a number spell it. -/
theorem digitsNat_toDigits (n : ℕ) : digitsNat (Nat.toDigits 10 n) = n := by
  rw [← digitsValue_eq]
  exact Nat.ofDigitChars_ten_toDigits

theorem isDigit_of_mem_toDigits {n : ℕ} {c : Char} (h : c ∈ Nat.toDigits 10 n) : c.isDigit = true :=
  Nat.isDigit_of_mem_toDigits (by decide) (by decide) h

/-- Zeros in front of digits change nothing. -/
theorem digitsNat_replicate_append (j : ℕ) (cs : List Char) :
    digitsNat (List.replicate j '0' ++ cs) = digitsNat cs := by
  rw [digitsNat_append]
  simp [digitsNat, List.map_replicate, Nat.ofDigits_replicate_zero]

/-- Zeros after digits shift them. -/
theorem digitsNat_append_replicate (cs : List Char) (j : ℕ) :
    digitsNat (cs ++ List.replicate j '0') = digitsNat cs * 10 ^ j := by
  rw [digitsNat_append]
  simp [digitsNat, List.map_replicate, Nat.ofDigits_replicate_zero]

/-- The digits of `a · 10 ^ k + r`, for a positive `a` and `r` below `10 ^ k`:
those of `a`, then those of `r` padded with zeros to `k` places. -/
theorem toDigits_mul_pow_add {a r : ℕ} (ha : 0 < a) :
    ∀ k, 0 < k → r < 10 ^ k →
      Nat.toDigits 10 (a * 10 ^ k + r) =
        Nat.toDigits 10 a ++ (List.replicate (k - (Nat.toDigits 10 r).length) '0' ++ Nat.toDigits 10 r)
  | 0, hk, _ => absurd hk (by decide)
  | 1, _, hr => by
      have hr' : r < 10 := by simpa using hr
      rw [pow_one, mul_comm, ← Nat.toDigits_append_toDigits (by decide) ha hr',
        Nat.toDigits_of_lt_base hr']
      simp
  | k + 2, _, hr => by
      -- peel the last digit off both sides and pad the rest to `k + 1` places
      have hsplit : a * 10 ^ (k + 2) + r = 10 * (a * 10 ^ (k + 1) + r / 10) + r % 10 := by
        have hpow : a * 10 ^ (k + 2) = 10 * (a * 10 ^ (k + 1)) := by ring
        omega
      have hpos : 0 < a * 10 ^ (k + 1) + r / 10 := by positivity
      have hlast : r % 10 < 10 := Nat.mod_lt _ (by decide)
      rw [hsplit, ← Nat.toDigits_append_toDigits (by decide) hpos hlast,
        toDigits_mul_pow_add ha (k + 1) (by omega) (by rw [pow_succ] at hr; omega),
        Nat.toDigits_of_lt_base hlast]
      by_cases hr10 : r < 10
      · have hdiv : r / 10 = 0 := by omega
        have hmod : r % 10 = r := by omega
        rw [hdiv, hmod, Nat.toDigits_zero, Nat.toDigits_of_lt_base hr10]
        simp [List.replicate_succ']
      · rw [Nat.toDigits_of_base_le (by decide) (by omega : 10 ≤ r)]
        simp

/-- The writer's digits of a natural number are its decimal digits: each
eighteen-digit chunk is the zero padded text of that part of the number. -/
theorem toList_natText (n : ℕ) : (natText n).toList = Nat.toDigits 10 n := by
  induction n using natText.induct with
  | case1 n hn => rw [natText, dif_pos hn, Nat.toList_repr]
  | case2 n hn ih =>
      have hB : chunkBase = 10 ^ 18 := rfl
      rw [natText, dif_neg hn, String.toList_append, ih, String.toList_ofList, Nat.toList_repr, hB]
      rw [hB] at hn
      conv_rhs => rw [← Nat.div_add_mod' n (10 ^ 18)]
      rw [toDigits_mul_pow_add (Nat.div_pos (by omega) (by positivity)) 18 (by decide)
        (Nat.mod_lt _ (by positivity))]

/-! ### Trailing zeros -/

/-- The trailing zeros dropped are zeros after what is kept. -/
theorem exists_eq_trimTrailingZeros_append (cs : List Char) :
    ∃ z, cs = trimTrailingZeros cs ++ List.replicate z '0' := by
  refine ⟨(cs.reverse.takeWhile (· = '0')).length, ?_⟩
  have hzeros : cs.reverse.takeWhile (· = '0') =
      List.replicate (cs.reverse.takeWhile (· = '0')).length '0' :=
    List.eq_replicate_iff.2 ⟨rfl, fun c hc => by simpa using List.mem_takeWhile_imp hc⟩
  conv_lhs => rw [← List.reverse_reverse cs, ← List.takeWhile_append_dropWhile (p := (· = '0'))
    (l := cs.reverse), List.reverse_append, hzeros, List.reverse_replicate]
  rfl

/-- What is kept does not end in a zero. -/
theorem getLast?_trimTrailingZeros (cs : List Char) :
    (trimTrailingZeros cs).getLast? ≠ some '0' := by
  rw [trimTrailingZeros, List.getLast?_reverse]
  cases h : cs.reverse.dropWhile (· = '0') with
  | nil => simp
  | cons c rest =>
      have hc := List.head_dropWhile_not (fun x => decide (x = '0')) (l := cs.reverse) (by simp [h])
      simp only [h, List.head_cons, decide_eq_false_iff_not] at hc
      simpa using hc

theorem trimTrailingZeros_eq_nil {cs : List Char} (h : ∀ c ∈ cs, c = '0') :
    trimTrailingZeros cs = [] := by
  rw [trimTrailingZeros, List.reverse_eq_nil_iff, List.dropWhile_eq_nil_iff]
  intro c hc
  simpa using h c (List.mem_reverse.1 hc)

theorem mem_of_mem_trimTrailingZeros {cs : List Char} {c : Char} (h : c ∈ trimTrailingZeros cs) :
    c ∈ cs :=
  List.mem_reverse.1 ((List.dropWhile_sublist _).subset (List.mem_reverse.1 h))

/-! ### The notation of a scaled magnitude -/

/-- A notation in canonical form: no leading zero in the whole part unless it
is `0`, at most `fractionDigits` fraction digits and no trailing zero among
them, and a minus sign only before a number below zero. -/
structure Notation.Canonical (n : Notation) : Prop where
  whole_head : n.whole = ['0'] ∨ n.whole.head? ≠ some '0'
  fraction_length : n.fraction.length ≤ fractionDigits
  fraction_last : n.fraction.getLast? ≠ some '0'
  negative_lt : n.negative = true → n.value < 0

/-- The last `fractionDigits` digits of `S`, zero padded to that many places. -/
def placesOf (S : ℕ) : List Char :=
  List.replicate (fractionDigits - (Nat.toDigits 10 (S % 10 ^ fractionDigits)).length) '0' ++
    Nat.toDigits 10 (S % 10 ^ fractionDigits)

theorem length_placesOf (S : ℕ) : (placesOf S).length = fractionDigits := by
  have hle : (Nat.toDigits 10 (S % 10 ^ fractionDigits)).length ≤ fractionDigits :=
    (Nat.length_toDigits_le_iff (by decide) (by decide)).2 (Nat.mod_lt _ (by positivity))
  simp only [placesOf, List.length_append, List.length_replicate]
  omega

theorem digitsNat_placesOf (S : ℕ) : digitsNat (placesOf S) = S % 10 ^ fractionDigits := by
  rw [placesOf, digitsNat_replicate_append, digitsNat_toDigits]

/-- The notation of a magnitude `S` scaled by `10 ^ fractionDigits`: the digits
of the whole part `S / 10 ^ fractionDigits`, then the places that remain with
their trailing zeros dropped. -/
def Notation.ofScaled (negative : Bool) (S : ℕ) : Notation where
  negative := negative
  whole := Nat.toDigits 10 (S / 10 ^ fractionDigits)
  fraction := trimTrailingZeros (placesOf S)
  whole_digits := ⟨Nat.toDigits_ne_nil, fun _ hc => isDigit_of_mem_toDigits hc⟩
  fraction_digits := fun c hc => by
    rcases List.mem_append.1 (mem_of_mem_trimTrailingZeros hc) with h | h
    · rw [(List.mem_replicate.1 h).2]
      decide
    · exact isDigit_of_mem_toDigits h

namespace Notation

variable (negative : Bool) (S : ℕ)

@[simp] theorem negative_ofScaled : (ofScaled negative S).negative = negative := rfl

@[simp] theorem whole_ofScaled :
    (ofScaled negative S).whole = Nat.toDigits 10 (S / 10 ^ fractionDigits) := rfl

@[simp] theorem fraction_ofScaled :
    (ofScaled negative S).fraction = trimTrailingZeros (placesOf S) := rfl

/-- The fraction digits, followed by the zeros dropped, are the places. -/
theorem exists_placesOf_eq :
    ∃ z, (ofScaled negative S).fraction.length + z = fractionDigits ∧
      digitsNat (ofScaled negative S).fraction * 10 ^ z = S % 10 ^ fractionDigits := by
  obtain ⟨z, hz⟩ := exists_eq_trimTrailingZeros_append (placesOf S)
  refine ⟨z, ?_, ?_⟩
  · have hlen := congrArg List.length hz
    rw [List.length_append, List.length_replicate, length_placesOf] at hlen
    exact hlen.symm
  · have hval := congrArg digitsNat hz
    rw [digitsNat_append_replicate, digitsNat_placesOf] at hval
    exact hval.symm

/-- There are fraction digits exactly when the places are not all zero. -/
theorem fraction_eq_nil_iff : (ofScaled negative S).fraction = [] ↔ S % 10 ^ fractionDigits = 0 := by
  constructor
  · intro h
    obtain ⟨z, -, hval⟩ := exists_placesOf_eq negative S
    rw [h, digitsNat_nil, zero_mul] at hval
    exact hval.symm
  · intro h
    apply trimTrailingZeros_eq_nil
    intro c hc
    rw [placesOf, h, Nat.toDigits_zero] at hc
    rcases List.mem_append.1 hc with hc | hc
    · exact (List.mem_replicate.1 hc).2
    · simpa using hc

/-- The notation of `S` spells `S / 10 ^ fractionDigits`. -/
theorem magnitude_ofScaled :
    (ofScaled negative S).magnitude = (S : ℚ) / 10 ^ fractionDigits := by
  obtain ⟨z, hlen, hval⟩ := exists_placesOf_eq negative S
  set k := (ofScaled negative S).fraction.length
  have hwhole : digitsNat (ofScaled negative S).whole = S / 10 ^ fractionDigits :=
    digitsNat_toDigits _
  -- scaling the numerator and denominator by the `z` zeros dropped
  have hnat : (digitsNat (ofScaled negative S).whole * 10 ^ k + digitsNat (ofScaled negative S).fraction)
      * 10 ^ z = S := by
    rw [hwhole, add_mul, mul_assoc, ← pow_add, hlen, hval]
    exact Nat.div_add_mod' S _
  rw [magnitude, div_eq_div_iff (by positivity) (by positivity), ← hlen]
  have hcast := congrArg (fun m : ℕ => (m : ℚ)) hnat
  push_cast at hcast ⊢
  rw [← hcast, pow_add]
  ring

theorem value_ofScaled :
    (ofScaled negative S).value = if negative then -((S : ℚ) / 10 ^ fractionDigits)
      else (S : ℚ) / 10 ^ fractionDigits := by
  rw [value, magnitude_ofScaled]
  rfl

/-- The notation of `S` is canonical when its sign stands only before a
positive `S`. -/
theorem canonical_ofScaled (hsign : negative = true → S ≠ 0) : (ofScaled negative S).Canonical where
  whole_head := by
    by_cases h : S / 10 ^ fractionDigits = 0
    · left
      simp [ofScaled, h]
    · exact .inr (head?_toDigits_ne_zero (Nat.pos_of_ne_zero h))
  fraction_length := by
    obtain ⟨z, hlen, -⟩ := exists_placesOf_eq negative S
    omega
  fraction_last := getLast?_trimTrailingZeros _
  negative_lt := fun hneg => by
    have hneg' : negative = true := hneg
    rw [value_ofScaled, if_pos hneg', neg_lt_zero]
    have := hsign hneg'
    positivity

end Notation

/-! ### Rounding -/

/-- Whether the text of `d` carries a minus sign: `d` is negative and does not
round to zero. -/
def showsMinus (d : Decimal) : Bool := decide (d.toRat < 0) && d.scaledMagnitude != 0

/-- The notation `d` is written in. -/
def written (d : Decimal) : Notation := Notation.ofScaled d.showsMinus d.scaledMagnitude

@[simp] theorem negative_written (d : Decimal) : d.written.negative = d.showsMinus := rfl

/-- The value `d` is written as: its magnitude rounded to `fractionDigits`
places, halves away from zero, with its sign. -/
def rounded (d : Decimal) : ℚ :=
  (SignType.sign d.toRat : ℚ) * ⌊|d.toRat| * 10 ^ fractionDigits + 1 / 2⌋ / 10 ^ fractionDigits

theorem abs_eq_natAbs_div_den (q : ℚ) : |q| = (q.num.natAbs : ℚ) / q.den := by
  rw [Rat.abs_def, Rat.divInt_eq_div]
  push_cast
  rw [Nat.cast_natAbs, Int.cast_abs]

/-- The scaled magnitude is `|d| · 10 ^ fractionDigits` rounded half up. -/
theorem scaledMagnitude_eq_floor (d : Decimal) :
    ⌊|d.toRat| * 10 ^ fractionDigits + 1 / 2⌋ = d.scaledMagnitude := by
  have hden : (0 : ℚ) < d.toRat.den := by exact_mod_cast d.toRat.den_pos
  -- `|num| / den · 10 ^ 68 + 1 / 2` is the quotient the writer divides
  have hq : |d.toRat| * 10 ^ fractionDigits + 1 / 2 =
      ((d.toRat.num.natAbs * Nat.pow 10 fractionDigits * 2 + d.toRat.den : ℕ) : ℚ) /
        ((2 * d.toRat.den : ℕ) : ℚ) := by
    rw [abs_eq_natAbs_div_den]
    push_cast
    rw [Nat.pow_eq]
    push_cast
    field_simp
  rw [hq, Rat.floor_natCast_div_natCast, scaledMagnitude]
  rfl

theorem scaledMagnitude_zero_of_eq_zero {d : Decimal} (h : d.toRat = 0) : d.scaledMagnitude = 0 := by
  simp [scaledMagnitude, h]

/-- Reading the notation of `d` gives its rounded value. -/
theorem value_written (d : Decimal) : d.written.value = d.rounded := by
  rw [written, Notation.value_ofScaled, rounded, scaledMagnitude_eq_floor, showsMinus]
  rcases lt_trichotomy d.toRat 0 with hneg | hzero | hpos
  · by_cases hS : d.scaledMagnitude = 0
    · simp [hS]
    · simp [hneg, hS, sign_neg hneg]
      ring
  · simp [hzero, scaledMagnitude_zero_of_eq_zero hzero]
  · simp [not_lt.2 hpos.le, sign_pos hpos]

theorem toList_sign_append (b : Bool) (s : String) :
    ((if b = true then "-" else "") ++ s).toList = if b then '-' :: s.toList else s.toList := by
  cases b <;> simp

/-- The text of `d` spells its notation. -/
theorem toList_toText (d : Decimal) : d.toText.toList = d.written.chars := by
  have hU : Nat.pow 10 fractionDigits = 10 ^ fractionDigits := Nat.pow_eq
  unfold toText
  split
  · -- an integer: its scaled magnitude has no places
    rename_i hden
    have hS : d.scaledMagnitude = d.toRat.num.natAbs * 10 ^ fractionDigits := by
      rw [scaledMagnitude, hden, hU]
      omega
    have hfrac : d.written.fraction = [] := by
      rw [written, Notation.fraction_eq_nil_iff, hS, Nat.mul_mod_left]
    have hwhole : d.written.whole = Nat.toDigits 10 d.toRat.num.natAbs := by
      rw [written, Notation.whole_ofScaled, hS, Nat.mul_div_cancel _ (by positivity)]
    have hsign : d.showsMinus = decide (d.toRat.num < 0) := by
      by_cases hn : d.toRat.num < 0
      · have habs : d.toRat.num.natAbs ≠ 0 := by omega
        simp [showsMinus, hS, Rat.num_neg.1 hn, hn, habs]
      · have hq : ¬ d.toRat < 0 := fun h => hn (Rat.num_neg.2 h)
        simp [showsMinus, hq]
    rw [Notation.chars, Notation.unsigned, hfrac, hwhole, negative_written, hsign,
      String.toList_append, toList_natText]
    by_cases hn : d.toRat.num < 0 <;> simp [hn]
  · dsimp only
    rw [hU]
    -- the sign, the whole part, and the places when they are not all zero
    have hb : (decide (d.toRat < 0) && d.scaledMagnitude != 0) = d.showsMinus := rfl
    rw [hb]
    split
    · rename_i hzero
      have hfrac : d.written.fraction = [] := (Notation.fraction_eq_nil_iff _ _).2 hzero
      rw [toList_sign_append, toList_natText, Notation.chars, Notation.unsigned, hfrac,
        negative_written]
      simp [written]
    · rename_i hnz
      have hfrac : d.written.fraction ≠ [] := fun h => hnz ((Notation.fraction_eq_nil_iff _ _).1 h)
      rw [String.append_assoc, String.append_assoc, toList_sign_append, Notation.chars,
        Notation.unsigned, if_neg hfrac, negative_written]
      simp [written, toList_natText, placesOf]

/-! ### The main statement -/

/-- A sign shows only before a magnitude that is not zero. -/
theorem scaledMagnitude_ne_zero_of_showsMinus {d : Decimal} (h : d.showsMinus = true) :
    d.scaledMagnitude ≠ 0 := by
  simp only [showsMinus, Bool.and_eq_true, bne_iff_ne] at h
  exact h.2

theorem canonical_written (d : Decimal) : d.written.Canonical :=
  Notation.canonical_ofScaled _ _ scaledMagnitude_ne_zero_of_showsMinus

/-- Reading the text of `d` gives its rounded value. -/
theorem parse_toText (d : Decimal) : parse d.toText = .ok ⟨d.rounded⟩ := by
  rw [parse_of_chars (toList_toText d), value_written]

/-- A written value has at most `fractionDigits` places. -/
theorem den_value_ofScaled_dvd (negative : Bool) (S : ℕ) :
    (Notation.ofScaled negative S).value.den ∣ 10 ^ fractionDigits := by
  have hq : (Notation.ofScaled negative S).value =
      Rat.divInt (if negative then -(S : ℤ) else S) ((10 ^ fractionDigits : ℕ) : ℤ) := by
    rw [Notation.value_ofScaled, Rat.divInt_eq_div]
    split <;> push_cast <;> ring
  rw [hq]
  exact Int.natCast_dvd_natCast.1 (Rat.den_dvd _ _)

/-- A decimal is its own rounding exactly when its denominator divides
`10 ^ fractionDigits`. -/
theorem rounded_eq_self_iff (d : Decimal) :
    d.rounded = d.toRat ↔ d.toRat.den ∣ 10 ^ fractionDigits := by
  constructor
  · intro h
    rw [← h, ← value_written]
    exact den_value_ofScaled_dvd _ _
  · rintro ⟨c, hc⟩
    have hden : (d.toRat.den : ℚ) ≠ 0 := by exact_mod_cast d.toRat.den_ne_zero
    -- `|d| · 10 ^ fractionDigits` is a whole number, so the half rounds away
    have hN : |d.toRat| * 10 ^ fractionDigits = ((d.toRat.num.natAbs * c : ℕ) : ℚ) := by
      rw [abs_eq_natAbs_div_den]
      have hcast : ((10 ^ fractionDigits : ℕ) : ℚ) = (d.toRat.den : ℚ) * c := by exact_mod_cast hc
      push_cast at hcast ⊢
      rw [hcast]
      field_simp
    have hfloor : ⌊|d.toRat| * 10 ^ fractionDigits + 1 / 2⌋ = ((d.toRat.num.natAbs * c : ℕ) : ℤ) := by
      rw [hN, Int.floor_natCast_add]
      norm_num
    rw [rounded, hfloor, Int.cast_natCast, ← hN, mul_div_assoc,
      mul_div_cancel_right₀ _ (by positivity), sign_mul_abs]

/-- Rounding what was rounded changes nothing. -/
theorem rounded_rounded (d : Decimal) : (⟨d.rounded⟩ : Decimal).rounded = d.rounded := by
  rw [rounded_eq_self_iff, ← value_written]
  exact den_value_ofScaled_dvd _ _

/-- Two notations of scaled magnitudes, each signed only when not zero, have
the same value only when they have the same sign and magnitude. -/
theorem eq_of_value_ofScaled_eq {b b' : Bool} {S S' : ℕ} (hb : b = true → S ≠ 0)
    (hb' : b' = true → S' ≠ 0)
    (h : (Notation.ofScaled b S).value = (Notation.ofScaled b' S').value) : b = b' ∧ S = S' := by
  have hU : (0 : ℚ) < 10 ^ fractionDigits := by positivity
  have hpos : ∀ T : ℕ, T ≠ 0 → (0 : ℚ) < T / 10 ^ fractionDigits := fun T hT => by positivity
  have hnonneg : ∀ T : ℕ, (0 : ℚ) ≤ T / 10 ^ fractionDigits := fun T => by positivity
  rw [Notation.value_ofScaled, Notation.value_ofScaled] at h
  cases b <;> cases b' <;> simp only [Bool.false_eq_true, if_false, if_true] at h
  · exact ⟨rfl, by exact_mod_cast (div_left_inj' hU.ne').1 h⟩
  · linarith [hpos S' (hb' rfl), hnonneg S]
  · linarith [hpos S (hb rfl), hnonneg S']
  · exact ⟨rfl, by exact_mod_cast (div_left_inj' hU.ne').1 (neg_inj.1 h)⟩

/-- Two decimals are written alike exactly when they round alike. -/
theorem toText_eq_iff_rounded_eq (a b : Decimal) : a.toText = b.toText ↔ a.rounded = b.rounded := by
  constructor
  · intro h
    have hread := parse_toText a
    rw [h, parse_toText b, Except.ok.injEq, Decimal.mk.injEq] at hread
    exact hread.symm
  · intro h
    rw [← value_written, ← value_written] at h
    obtain ⟨hsign, hS⟩ := eq_of_value_ofScaled_eq scaledMagnitude_ne_zero_of_showsMinus
      scaledMagnitude_ne_zero_of_showsMinus h
    rw [← String.toList_inj, toList_toText, toList_toText, written, written, hsign, hS]

/-- The text of a decimal is canonical and reads back as the decimal rounded
to `fractionDigits` places, halves away from zero. So a decimal reads back as
itself exactly when its denominator divides `10 ^ fractionDigits`, the text of
what is read back is the text again, and two decimals have one text exactly
when they round to one value. -/
theorem toText_canonical_rounded (d : Decimal) :
    (∃ n : Notation, n.chars = d.toText.toList ∧ n.Canonical) ∧
      parse d.toText = .ok ⟨d.rounded⟩ ∧
      (parse d.toText = .ok d ↔ d.toRat.den ∣ 10 ^ fractionDigits) ∧
      (parse d.toText).map toText = .ok d.toText ∧
      ∀ e : Decimal, d.toText = e.toText ↔ d.rounded = e.rounded := by
  refine ⟨⟨d.written, (toList_toText d).symm, canonical_written d⟩, parse_toText d, ?_, ?_,
    toText_eq_iff_rounded_eq d⟩
  · rw [parse_toText, Except.ok.injEq, ← rounded_eq_self_iff]
    cases d
    simp only [Decimal.mk.injEq]
  · -- what is read back rounds to itself, so it is written the same way
    rw [parse_toText]
    exact congrArg Except.ok ((toText_eq_iff_rounded_eq _ _).2 (rounded_rounded d))

end ArithQuiz.Decimal
