import ArithQuiz.Binary64.Basic

/-!
# Shortest decimal text of a double

`Binary64.shortest` finds the decimal with the fewest significant digits that
reads back as the same double, and of those the nearest to it; a value midway
between two such decimals goes by a `Tie` rule, upward for messages and to the
even neighbour for JSON text. The doubles
that read back are the interval of reals rounding to the value, its ends
included exactly when the significand is even. For 1, 2, … 17 digits it tests
the two neighbours of the value on that decimal grid: if any point of a grid
lies in the interval, one of the two neighbours does, so the first grid with a
hit gives the fewest digits.

How the digits are laid out is a `Layout`, one record per kind of output:
`Layout.plain` never writes an exponent and keeps integers bare (the form of
numbers in messages), `Layout.json` writes positionally only near the unit,
adds `.0` to integers, and writes exponents with their sign (the form of
numbers in JSON text).
-/

set_option autoImplicit false

namespace ArithQuiz

namespace Binary64

/-- A decimal `digits · 10 ^ exponent`. -/
structure Digits where
  /-- The significant digits as a number, without trailing zeros. -/
  digits : Nat
  /-- The decimal exponent of the last digit. -/
  exponent : Int
deriving DecidableEq, Inhabited

/-- The number of decimal digits of a positive number. -/
def decimalLength (n : Nat) : Nat := (Nat.toDigits 10 n).length

/-- `10 ^ k` as a rational, for any integer `k`. -/
def tenPow (k : Int) : Rat :=
  if 0 ≤ k then ((Nat.pow 10 k.toNat : Nat) : Rat) else 1 / ((Nat.pow 10 (-k).toNat : Nat) : Rat)

/-- `⌊log₁₀ (n / d)⌋` for positive `n` and `d`. -/
def floorLog10 (n d : Nat) : Int :=
  let t : Int := (decimalLength n : Int) - (decimalLength d : Int)
  -- `n / d` lies in `[10^(t-1), 10^(t+1))`; compare with `10^t` to choose.
  if n * Nat.pow 10 (-t).toNat ≥ d * Nat.pow 10 t.toNat then t else t - 1

/-- Removes the trailing zeros of `d · 10 ^ k`. -/
def Digits.normalize (d : Nat) (k : Int) : Nat → Digits
  | 0 => ⟨d, k⟩
  | fuel + 1 => if d ≠ 0 ∧ d % 10 = 0 then Digits.normalize (d / 10) (k + 1) fuel else ⟨d, k⟩

/-- The reals that round to a positive double `m · 2^e`: the two ends, and
whether they belong to the interval. -/
structure RoundingInterval where
  /-- Lower end. -/
  low : Rat
  /-- Upper end. -/
  high : Rat
  /-- Whether the ends belong to the interval (an even significand). -/
  closed : Bool

/-- How a value midway between two decimals of equal length is settled. -/
inductive Tie
  /-- The decimal whose last digit is even. -/
  | toEven
  /-- The decimal of greater magnitude. -/
  | up
deriving DecidableEq, Inhabited

/-- The rounding interval of the magnitude of a nonzero double. The gap below
is half as wide as the gap above at the bottom of a binade. -/
def roundingInterval (x : Binary64) : RoundingInterval :=
  let v : Rat := (x.significand : Rat) * twoPow x.exponent
  let below := if x.significand = Nat.pow 2 52 ∧ x.exponent > minExponent then twoPow (x.exponent - 2)
    else twoPow (x.exponent - 1)
  ⟨v - below, v + twoPow (x.exponent - 1), x.significand % 2 == 0⟩

/-- Whether a rational lies in the rounding interval. -/
def RoundingInterval.mem (r : RoundingInterval) (c : Rat) : Bool :=
  if r.closed then decide (r.low ≤ c) && decide (c ≤ r.high)
  else decide (r.low < c) && decide (c < r.high)

/-- The nearest decimal of `n` significant digits that reads back, if any, a
tie settled by `tie`. The value is `v`, and `top` is `⌊log₁₀ v⌋`. -/
def candidate (tie : Tie) (r : RoundingInterval) (v : Rat) (top : Int) (n : Nat) :
    Option Digits :=
  let k := top - n + 1
  let grid := tenPow k
  let a := (v / grid).floor.toNat
  let lower := (a : Rat) * grid
  let upper := ((a + 1 : Nat) : Rat) * grid
  let pick (d : Nat) : Option Digits := some (Digits.normalize d k 20)
  match r.mem lower, r.mem upper with
  | true, true =>
    let dl := v - lower
    let du := upper - v
    if dl < du then pick a
    else if du < dl then pick (a + 1)
    else
      match tie with
      | .toEven => if a % 2 = 0 then pick a else pick (a + 1)
      | .up => pick (a + 1)
  | true, false => pick a
  | false, true => pick (a + 1)
  | false, false => none

/-- The shortest decimal that reads back as the magnitude of a nonzero double,
the nearest one of those, a tie settled by `tie`. -/
def shortest (tie : Tie) (x : Binary64) : Digits :=
  let v : Rat := (x.significand : Rat) * twoPow x.exponent
  let r := roundingInterval x
  let top := floorLog10 v.num.natAbs v.den
  match (List.range 17).findSome? fun i => candidate tie r v top (i + 1) with
  | some d => d
  | none => Digits.normalize x.significand 0 0

/-- How a kind of output lays out the digits of a double. The decimal point
position `p` (the value is `0.d₁d₂… · 10^p`) is written positionally when
`positionalAbove < p ≤ positionalUpTo`, and with an exponent otherwise. -/
structure Layout where
  /-- Positions at or below this use an exponent. -/
  positionalAbove : Int
  /-- Positions above this use an exponent. -/
  positionalUpTo : Int
  /-- Appended to a value written as an integer. -/
  integerSuffix : String
  /-- Whether a positive exponent carries a plus sign. -/
  plusSign : Bool
  /-- How a value midway between two shortest decimals is settled. -/
  tie : Tie

/-- Numbers in messages: never an exponent, integers bare, `-0` for the
negative zero, ties upward. -/
def Layout.plain : Layout := ⟨-400, 400, "", false, .up⟩

/-- Numbers in JSON text: positional for points from `-4` to `16`, integers
with `.0`, exponents with their sign (`1e+20`, `1e-7`), ties to even. -/
def Layout.json : Layout := ⟨-5, 16, ".0", true, .toEven⟩

/-- `n` zeros. -/
def zeros (n : Nat) : String := String.ofList (List.replicate n '0')

/-- The text of a nonnegative decimal under a layout. -/
def Layout.render (l : Layout) (d : Digits) : String :=
  let ds := Nat.toDigits 10 d.digits
  let len : Int := ds.length
  let p := len + d.exponent
  if l.positionalAbove < p ∧ p ≤ l.positionalUpTo then
    if 0 ≤ d.exponent then String.ofList ds ++ zeros d.exponent.toNat ++ l.integerSuffix
    else if 0 < p then
      String.ofList (ds.take p.toNat) ++ "." ++ String.ofList (ds.drop p.toNat)
    else "0." ++ zeros (-p).toNat ++ String.ofList ds
  else
    let e := p - 1
    let mantissa := match ds with
      | [c] => c.toString
      | c :: rest => c.toString ++ "." ++ String.ofList rest
      | [] => "0"
    let sign := if e < 0 then "-" else if l.plusSign then "+" else ""
    mantissa ++ "e" ++ sign ++ toString e.natAbs

/-- The text of a double under a layout. -/
def toText (l : Layout) (x : Binary64) : String :=
  let sign := if x.negative then "-" else ""
  if x.significand = 0 then sign ++ "0" ++ l.integerSuffix
  else sign ++ l.render (shortest l.tie x)

/-- The text of a double in messages. -/
def plainText (x : Binary64) : String := toText .plain x

/-- The text of a double in JSON. -/
def jsonText (x : Binary64) : String := toText .json x

end Binary64

end ArithQuiz
