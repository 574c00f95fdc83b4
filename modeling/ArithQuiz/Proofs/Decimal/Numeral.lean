import Mathlib.Data.Nat.Digits.Defs
import Mathlib.Algebra.Order.Field.Rat
import ArithQuiz.Expr.Error

/-!
# `ArithQuiz.Proofs.Decimal.Numeral`: what an unsigned number reads as

A numeral is one or more ASCII digits, optionally followed by a point and one
or more digits (`Numeral`). Its value is the digit string without the point,
read in base ten with Mathlib's `Nat.ofDigits`, over ten to the number of
fractional digits (`numeralValue`). Nothing here goes through the reader's own
digit loop, so the two statements below compare the reader with an independent
account of the notation:

* `ofChars?_of_numeral`: a numeral is read, to its value;
* `numeral_of_ofChars?`: a text that does not start with `-` and is read at all
  is a numeral, and was read to its value.

A signed text is the business of the whole reader; the expression builder
only ever hands it texts without any operator character, `-` included.

The other way round, the text a decimal is written as holds digits, perhaps a
point and a minus sign (`mem_toText`), and at least one digit
(`exists_isDigit_toText`).
-/

set_option autoImplicit false

namespace ArithQuiz.Decimal

/-- One or more ASCII digits. -/
def IsDigits (cs : List Char) : Prop := cs ≠ [] ∧ ∀ c ∈ cs, c.isDigit = true

/-- The notation of an unsigned number: digits, then optionally a point and
more digits. -/
inductive Numeral : List Char → Prop
  /-- A whole number. -/
  | whole {i : List Char} : IsDigits i → Numeral i
  /-- A number with a fractional part. -/
  | point {i f : List Char} : IsDigits i → IsDigits f → Numeral (i ++ '.' :: f)

/-- The number a string of digits spells in base ten, most significant first. -/
def digitsNat (cs : List Char) : ℕ := Nat.ofDigits 10 (cs.reverse.map fun c => c.toNat - '0'.toNat)

/-- The value of a numeral: all its digits read as one number, over ten to the
number of digits after the point. -/
def numeralValue (cs : List Char) : ℚ :=
  (digitsNat (cs.filter (· ≠ '.')) : ℚ) / 10 ^ ((cs.dropWhile (· ≠ '.')).drop 1).length

theorem Numeral.mem {cs : List Char} (h : Numeral cs) {c : Char} (hc : c ∈ cs) :
    c.isDigit = true ∨ c = '.' := by
  cases h with
  | whole hi => exact .inl (hi.2 c hc)
  | point hi hf =>
      simp only [List.mem_append, List.mem_cons] at hc
      rcases hc with hc | hc | hc
      · exact .inl (hi.2 c hc)
      · exact .inr hc
      · exact .inl (hf.2 c hc)

theorem Numeral.ne_nil {cs : List Char} (h : Numeral cs) : cs ≠ [] := by
  cases h with
  | whole hi => exact hi.1
  | point => simp

theorem isDigit_ne_point {c : Char} (h : c.isDigit = true) : c ≠ '.' := by
  rintro rfl
  exact absurd h (by decide)

theorem isDigit_ne_minus {c : Char} (h : c.isDigit = true) : c ≠ '-' := by
  rintro rfl
  exact absurd h (by decide)

/-- The reader's digit loop, started from `acc`, shifts `acc` past the digits
and adds their value. -/
theorem foldl_digits (cs : List Char) (acc : ℕ) :
    cs.foldl (fun acc c => 10 * acc + (c.toNat - '0'.toNat)) acc =
      acc * 10 ^ cs.length + digitsNat cs := by
  induction cs generalizing acc with
  | nil => simp [digitsNat]
  | cons c cs ih =>
      rw [List.foldl_cons, ih]
      simp only [digitsNat, List.reverse_cons, List.map_append, List.map_cons, List.map_nil,
        Nat.ofDigits_append, Nat.ofDigits_singleton, List.length_map, List.length_reverse,
        List.length_cons, Nat.pow_succ]
      ring

theorem digitsValue_eq (cs : List Char) : digitsValue cs = digitsNat cs := by
  simpa [digitsValue] using foldl_digits cs 0

theorem isDigitRun_iff (cs : List Char) : isDigitRun cs = true ↔ IsDigits cs := by
  simp [isDigitRun, IsDigits]

/-- Digits hold no point: the scan for the point reads through them. -/
theorem takeWhile_digits (cs : List Char) (h : ∀ c ∈ cs, c.isDigit = true) (rest : List Char) :
    (cs ++ rest).takeWhile (· ≠ '.') = cs ++ rest.takeWhile (· ≠ '.') ∧
      (cs ++ rest).dropWhile (· ≠ '.') = rest.dropWhile (· ≠ '.') := by
  induction cs with
  | nil => simp
  | cons c cs ih =>
      simp only [List.mem_cons, forall_eq_or_imp] at h
      have hc : decide (c ≠ '.') = true := decide_eq_true (isDigit_ne_point h.1)
      simp only [List.cons_append, List.takeWhile_cons, List.dropWhile_cons, hc, if_true,
        (ih h.2).1, (ih h.2).2, and_self]

theorem filter_digits (cs : List Char) (h : ∀ c ∈ cs, c.isDigit = true) :
    cs.filter (· ≠ '.') = cs :=
  List.filter_eq_self.2 fun c hc => by simpa using isDigit_ne_point (h c hc)

/-- The value of a whole number. -/
theorem numeralValue_whole {i : List Char} (hi : IsDigits i) : numeralValue i = digitsNat i := by
  have h := (takeWhile_digits i hi.2 []).2
  simp only [List.append_nil, List.dropWhile_nil] at h
  rw [numeralValue, filter_digits i hi.2, h]
  simp

/-- The value of a number with a point. -/
theorem numeralValue_point {i f : List Char} (hi : IsDigits i) (hf : IsDigits f) :
    numeralValue (i ++ '.' :: f) = (digitsNat (i ++ f) : ℚ) / 10 ^ f.length := by
  have h := (takeWhile_digits i hi.2 ('.' :: f)).2
  rw [numeralValue, List.filter_append, filter_digits i hi.2, List.filter_cons_of_neg (by simp),
    filter_digits f hf.2, h]
  simp

/-- A numeral starts with a digit, so it carries no sign. -/
theorem Numeral.ne_minus_cons {cs : List Char} (h : Numeral cs) (rest : List Char) :
    cs ≠ '-' :: rest := by
  have hd : ∀ i : List Char, IsDigits i → ∀ r, i ++ r ≠ '-' :: rest := by
    rintro i ⟨hne, hdig⟩ r heq
    obtain ⟨c, i', rfl⟩ := List.exists_cons_of_ne_nil hne
    simp only [List.cons_append, List.cons.injEq] at heq
    exact isDigit_ne_minus (hdig c (by simp)) heq.1
  cases h with
  | whole hi => simpa using hd _ hi []
  | point hi _ => exact hd _ hi _

theorem takeWhile_point (f : List Char) : ('.' :: f).takeWhile (· ≠ '.') = [] := by
  simp

theorem dropWhile_point (f : List Char) : ('.' :: f).dropWhile (· ≠ '.') = '.' :: f := by
  simp

/-- The magnitude the reader builds from two digit runs is the value of the
numeral they spell. -/
theorem ofDigits_false (i f : List Char) :
    ofDigits false i f = ⟨(digitsNat (i ++ f) : ℚ) / 10 ^ f.length⟩ := by
  simp [ofDigits, digitsValue_eq, Nat.pow_eq]

/-- A numeral is read, to its value. -/
theorem ofChars?_of_numeral {cs : List Char} (h : Numeral cs) :
    ofChars? cs = some ⟨numeralValue cs⟩ := by
  unfold ofChars?
  split
  rename_i negative body hsign
  -- a numeral starts with a digit, so the sign test keeps the whole text
  split at hsign
  · exact absurd rfl (h.ne_minus_cons _)
  · simp only [Prod.mk.injEq] at hsign
    obtain ⟨rfl, rfl⟩ := hsign
    cases h with
    | whole hi =>
        have hs := takeWhile_digits _ hi.2 []
        simp only [List.append_nil, List.takeWhile_nil, List.dropWhile_nil] at hs
        simp only [hs.1, hs.2, (isDigitRun_iff _).2 hi, if_true, ofDigits_false,
          numeralValue_whole hi]
        simp
    | @point i f hi hf =>
        have hs := takeWhile_digits _ hi.2 ('.' :: f)
        rw [takeWhile_point, dropWhile_point, List.append_nil] at hs
        simp only [hs.1, hs.2, (isDigitRun_iff _).2 hi, (isDigitRun_iff _).2 hf, Bool.and_self,
          if_true, ofDigits_false, numeralValue_point hi hf]

/-- A text that does not start with `-` and is read at all is a numeral, and
was read to its value. -/
theorem numeral_of_ofChars? {cs : List Char} {d : Decimal} (hc : ∀ rest, cs ≠ '-' :: rest)
    (h : ofChars? cs = some d) : Numeral cs ∧ d = ⟨numeralValue cs⟩ := by
  unfold ofChars? at h
  split at h
  rename_i negative body hsign
  split at hsign
  · exact absurd rfl (hc _)
  · simp only [Prod.mk.injEq] at hsign
    obtain ⟨rfl, rfl⟩ := hsign
    -- the text is the run before the first point, then the rest from that point
    have hcs := List.takeWhile_append_dropWhile (p := (· ≠ '.')) (l := cs)
    split at h
    · rename_i hdrop
      simp only at h
      split at h
      · rename_i hrun
        rw [hdrop, List.append_nil] at hcs
        rw [hcs] at hrun
        have hi := (isDigitRun_iff _).1 hrun
        refine ⟨.whole hi, ?_⟩
        rw [← Option.some.inj h, ofDigits_false, numeralValue_whole hi, hcs]
        simp
      · simp at h
    · rename_i x f hdrop
      simp only at h
      split at h
      · rename_i hrun
        simp only [Bool.and_eq_true] at hrun
        -- the rest starts at the first point
        have hx : x = '.' := by
          have := List.head_dropWhile_not (· ≠ '.') (l := cs) (by rw [hdrop]; exact List.cons_ne_nil _ _)
          simp only [hdrop, List.head_cons] at this
          simpa using this
        subst hx
        have hi := (isDigitRun_iff _).1 hrun.1
        have hf := (isDigitRun_iff _).1 hrun.2
        rw [hdrop] at hcs
        rw [← hcs]
        refine ⟨.point hi hf, ?_⟩
        rw [← Option.some.inj h, ofDigits_false, numeralValue_point hi hf]
      · simp at h

/-! ### The texts of decimals -/

/-- The decimal text of a natural number is digits. -/
theorem isDigit_of_mem_repr (m : ℕ) : ∀ c ∈ m.repr.toList, c.isDigit = true := fun c hc => by
  rw [Nat.toList_repr] at hc
  exact Nat.isDigit_of_mem_toDigits (by decide) (by decide) hc

/-- The text of a natural number is digits: each chunk is its decimal text,
after zeros that pad it to eighteen places. -/
theorem isDigit_of_mem_natText (n : ℕ) : ∀ c ∈ (natText n).toList, c.isDigit = true := by
  induction n using natText.induct with
  | case1 n hn =>
      rw [natText, dif_pos hn]
      exact isDigit_of_mem_repr n
  | case2 n hn ih =>
      intro c hc
      rw [natText, dif_neg hn, String.toList_append, List.mem_append, String.toList_ofList,
        List.mem_append] at hc
      rcases hc with hc | hc | hc
      · exact ih c hc
      · rw [(List.mem_replicate.1 hc).2]
        decide
      · exact isDigit_of_mem_repr _ c hc

/-- The text of a natural number is not empty. -/
theorem natText_ne_nil (n : ℕ) : (natText n).toList ≠ [] := by
  induction n using natText.induct with
  | case1 n hn =>
      rw [natText, dif_pos hn, Nat.toList_repr]
      exact Nat.toDigits_ne_nil
  | case2 n hn ih =>
      rw [natText, dif_neg hn, String.toList_append]
      exact List.append_ne_nil_of_left_ne_nil ih _

/-- The text of an integer: its digits, after a minus sign when negative. -/
theorem toText_ofInt (n : ℤ) :
    (ofInt n).toText.toList = (if n < 0 then ['-'] else []) ++ (natText n.natAbs).toList := by
  have hden : (ofInt n).toRat.den = 1 := Rat.den_intCast n
  have hnum : (ofInt n).toRat.num = n := Rat.num_intCast n
  rw [toText, if_pos hden, hnum]
  split <;> simp

/-- Each character of a decimal's text is a digit, a point or a minus sign. -/
theorem mem_toText (d : Decimal) {c : Char} (h : c ∈ d.toText.toList) :
    c.isDigit = true ∨ c = '.' ∨ c = '-' := by
  unfold toText at h
  split at h
  · simp only [String.toList_append, List.mem_append] at h
    rcases h with h | h
    · split at h <;> simp_all
    · exact .inl (isDigit_of_mem_natText _ c h)
  · -- the sign, the whole part, and perhaps a point and the kept places
    have hsign : ∀ (b : Bool) (x : Char), x ∈ (if b then "-" else "").toList → x = '-' := by
      intro b x hx
      cases b <;> simp_all
    have htrim : ∀ l : List Char, ∀ x ∈ trimTrailingZeros l, x ∈ l := fun l x hx =>
      List.mem_reverse.1 ((List.dropWhile_sublist _).subset (List.mem_reverse.1 hx))
    dsimp only at h
    split at h
    · simp only [String.toList_append, List.mem_append] at h
      rcases h with h | h
      · exact .inr (.inr (hsign _ c h))
      · exact .inl (isDigit_of_mem_natText _ c h)
    · simp only [String.toList_append, List.mem_append, String.toList_ofList] at h
      rcases h with ((h | h) | h) | h
      · exact .inr (.inr (hsign _ c h))
      · exact .inl (isDigit_of_mem_natText _ c h)
      · exact .inr (.inl (by simpa using h))
      · rcases List.mem_append.1 (htrim _ c h) with h | h
        · rw [(List.mem_replicate.1 h).2]
          exact .inl (by decide)
        · exact .inl (isDigit_of_mem_natText _ c h)

/-- The text of a decimal holds a digit: the text of its whole part is in it. -/
theorem exists_isDigit_toText (d : Decimal) : ∃ c ∈ d.toText.toList, c.isDigit = true := by
  have hnat : ∀ n : ℕ, ∃ c cs, (natText n).toList = c :: cs ∧ c.isDigit = true := fun n => by
    obtain ⟨c, cs, hc⟩ := List.exists_cons_of_ne_nil (natText_ne_nil n)
    exact ⟨c, cs, hc, isDigit_of_mem_natText n c (by simp [hc])⟩
  unfold toText
  split
  · obtain ⟨c, cs, hc, hd⟩ := hnat d.toRat.num.natAbs
    exact ⟨c, by simp [hc], hd⟩
  · dsimp only
    obtain ⟨c, cs, hc, hd⟩ := hnat (d.scaledMagnitude / 10 ^ fractionDigits)
    split
    · exact ⟨c, by simp [hc], hd⟩
    · exact ⟨c, by simp [hc], hd⟩
end ArithQuiz.Decimal
