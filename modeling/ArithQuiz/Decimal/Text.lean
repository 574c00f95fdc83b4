import ArithQuiz.Decimal.Basic

/-!
# Decimal text

Reading and writing decimals.

* `Decimal.ofText?` accepts exactly `-?D+(.D+)?` with ASCII digits `D`: no plus
  sign, no blanks, no exponent, and digits on both sides of a point.
* `Decimal.toText` is the canonical text: the value rounded half up to
  `fractionDigits` places, trailing fractional zeros and a bare point dropped,
  and a minus sign only when the rounded magnitude is not zero.
-/

set_option autoImplicit false

namespace ArithQuiz

namespace Decimal

/-- Places kept after the point when a value is written. -/
def fractionDigits : Nat := 68

/-- A run of one or more ASCII digits. -/
def isDigitRun (cs : List Char) : Bool := !cs.isEmpty && cs.all Char.isDigit

/-- The number a list of ASCII digits spells, most significant first. -/
def digitsValue (cs : List Char) : Nat :=
  cs.foldl (fun acc c => 10 * acc + (c.toNat - '0'.toNat)) 0

/-- Builds `±(int.frac)` from its digit runs. -/
def ofDigits (negative : Bool) (intPart fracPart : List Char) : Decimal :=
  let magnitude : Rat := (digitsValue (intPart ++ fracPart) : Rat) / ((Nat.pow 10 fracPart.length : Nat) : Rat)
  ⟨if negative then -magnitude else magnitude⟩

/-- Reads `-?D+(.D+)?`; anything else is refused. -/
def ofChars? (cs : List Char) : Option Decimal :=
  let (negative, body) := match cs with
    | '-' :: rest => (true, rest)
    | rest => (false, rest)
  let intPart := body.takeWhile (· ≠ '.')
  match body.dropWhile (· ≠ '.') with
  | [] => if isDigitRun intPart then some (ofDigits negative intPart []) else none
  | _ :: fracPart =>
    if isDigitRun intPart && isDigitRun fracPart then some (ofDigits negative intPart fracPart)
    else none

/-- Reads a decimal from its text, see `ofChars?`. -/
def ofText? (s : String) : Option Decimal := ofChars? s.toList

/-- The magnitude scaled by `10 ^ fractionDigits` and rounded half up. -/
def scaledMagnitude (d : Decimal) : Nat :=
  let den := d.toRat.den
  (d.toRat.num.natAbs * Nat.pow 10 fractionDigits * 2 + den) / (2 * den)

/-- Drops the zeros at the end of a digit list. -/
def trimTrailingZeros (cs : List Char) : List Char :=
  (cs.reverse.dropWhile (· = '0')).reverse

/-- `10 ^ 18`: a number below it has at most eighteen digits and is a machine
word. -/
def chunkBase : Nat := 1000000000000000000

-- `h` is read only by the termination proof.
set_option linter.unusedVariables false in
/-- The digits of a natural number. A number below `chunkBase` is a machine
word and `Nat.repr` writes it directly; a larger one is written as its leading
part followed by its last eighteen digits, zero padded. -/
def natText (n : Nat) : String :=
  if h : n < chunkBase then Nat.repr n
  else
    let low := (Nat.repr (n % chunkBase)).toList
    natText (n / chunkBase) ++ String.ofList (List.replicate (18 - low.length) '0' ++ low)
termination_by n
decreasing_by exact Nat.div_lt_self (by unfold chunkBase at h; omega) (by unfold chunkBase; omega)

/-- The canonical text of a decimal. An integer is its digits with a minus
sign when negative. Otherwise the text is the whole part of the scaled
magnitude, then, unless the remaining `fractionDigits` places are all zero, a point and
those places with their trailing zeros dropped. -/
def toText (d : Decimal) : String :=
  if d.toRat.den = 1 then
    (if d.toRat.num < 0 then "-" else "") ++ natText d.toRat.num.natAbs
  else
    let scaled := d.scaledMagnitude
    let unit := Nat.pow 10 fractionDigits
    let frac := (natText (scaled % unit)).toList
    let sign := if d.toRat < 0 && scaled != 0 then "-" else ""
    if scaled % unit = 0 then sign ++ natText (scaled / unit)
    else
      sign ++ natText (scaled / unit) ++ "." ++
        String.ofList (trimTrailingZeros (List.replicate (fractionDigits - frac.length) '0' ++ frac))

instance : ToString Decimal := ⟨toText⟩

/-- The debugging form `Decimal(<canonical text>)`. -/
def debugText (d : Decimal) : String := "Decimal(" ++ d.toText ++ ")"

end Decimal

end ArithQuiz
