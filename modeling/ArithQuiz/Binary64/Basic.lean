/-!
# Finite doubles as exact rationals

A `Binary64` is a finite IEEE 754 double: a sign, an integer significand `m`
and a binary exponent `e`, denoting `± m · 2^e`. Values are made only by
`Binary64.round`, which rounds a rational to the nearest double, a tie going
to the even significand; a value at or beyond `2^1024` after rounding has no
finite double and gives `none`. Products and quotients are the exact results
rounded the same way, which is what IEEE arithmetic computes.

Normal values have `2^52 ≤ m < 2^53` and `-1074 ≤ e ≤ 971`; subnormal ones
have `m < 2^52` and `e = -1074`. Zero keeps its sign.
-/

set_option autoImplicit false

namespace ArithQuiz

/-- A finite double `± significand · 2 ^ exponent`. -/
structure Binary64 where
  /-- The sign bit; a zero may be negative. -/
  negative : Bool
  /-- The significand, below `2 ^ 53`. -/
  significand : Nat
  /-- The binary exponent of the significand's last bit. -/
  exponent : Int
deriving DecidableEq, Inhabited

namespace Binary64

/-- The least exponent, that of the subnormal values. -/
def minExponent : Int := -1074

/-- The greatest exponent of a finite value. -/
def maxExponent : Int := 971

/-- `2 ^ e` as a rational, for any integer `e`. -/
def twoPow (e : Int) : Rat :=
  if 0 ≤ e then ((1 <<< e.toNat : Nat) : Rat) else mkRat 1 (1 <<< (-e).toNat)

/-- The exact value: the signed significand over `2 ^ -exponent`, or times
`2 ^ exponent`, normalized once. -/
def toRat (x : Binary64) : Rat :=
  let n : Int := if x.negative then -(x.significand : Int) else (x.significand : Int)
  if 0 ≤ x.exponent then ((n * ((1 <<< x.exponent.toNat : Nat) : Int) : Int) : Rat)
  else mkRat n (1 <<< (-x.exponent).toNat)

/-- Whether the value is zero, of either sign. -/
def isZero (x : Binary64) : Bool := x.significand == 0

/-- A zero of the given sign. -/
def zero (negative : Bool) : Binary64 := ⟨negative, 0, minExponent⟩

/-- `⌊log₂ (n / d)⌋` for positive `n` and `d`. -/
def floorLog2 (n d : Nat) : Int :=
  let t : Int := (Nat.log2 n : Int) - (Nat.log2 d : Int)
  -- `n / d` lies in `[2^(t-1), 2^(t+1))`; compare with `2^t` to choose.
  if n * Nat.pow 2 (-t).toNat ≥ d * Nat.pow 2 t.toNat then t else t - 1

/-- `n / d` rounded to an integer, a tie going to the even neighbour. -/
def roundHalfEven (n d : Nat) : Nat :=
  let q := n / d
  let r := n % d
  if 2 * r > d ∨ (2 * r = d ∧ q % 2 = 1) then q + 1 else q

/-- The double nearest to `± n / d` (`d > 0`), or `none` past the largest
finite double. -/
def round (negative : Bool) (n d : Nat) : Option Binary64 :=
  if n = 0 then some (zero negative)
  else
    let e := max (floorLog2 n d - 52) minExponent
    let m := roundHalfEven (n * Nat.pow 2 (-e).toNat) (d * Nat.pow 2 e.toNat)
    let (m, e) := if m = Nat.pow 2 53 then (Nat.pow 2 52, e + 1) else (m, e)
    if e > maxExponent then none else some ⟨negative, m, e⟩

/-- The double nearest to a rational. -/
def ofRat (q : Rat) : Option Binary64 := round (q < 0) q.num.natAbs q.den

/-- The double nearest to a natural number below `2 ^ 64`. -/
def ofNat (n : Nat) : Binary64 := (round false n 1).getD (zero false)

/-- The product rounded to a double; `none` when it overflows. -/
def mul (x y : Binary64) : Option Binary64 :=
  let q := x.toRat * y.toRat
  round (x.negative != y.negative) q.num.natAbs q.den

/-- The quotient rounded to a double, for a nonzero divisor; `none` when it
overflows. -/
def div (x y : Binary64) : Option Binary64 :=
  let q := x.toRat / y.toRat
  round (x.negative != y.negative) q.num.natAbs q.den

/-- The opposite value. -/
def neg (x : Binary64) : Binary64 := { x with negative := !x.negative }

/-- Equality of values: the two zeros are equal. -/
def eqValue (x y : Binary64) : Bool := x.toRat == y.toRat

end Binary64

end ArithQuiz
