import ArithQuiz.Random.ChaCha
import ArithQuiz.Random.Source

/-!
# Drawing from the word stream

Three kinds of draw, each a rule on the words of `ArithQuiz.Random.Stream`:

* `Stream.uniformInt lo hi`: an integer of `lo..=hi` (64-bit bounds), by
  widening multiplication of a 64-bit word with the range size and rejecting
  the low halves above a zone; the full 64-bit range takes one word as it is.
* `Stream.index len`: a position below `len`, by the same rule on single
  32-bit words.
* `Stream.bernoulli p`: `true` with probability `p`, by comparing a 64-bit word
  with `⌊p · 2⁶⁴⌋`; `p = 1` answers `true` without a draw.

With these three the stream is a `DrawSource`.

A rejection loop ends with probability one, but not provably: each draw is
rejected with probability below one half, and the loops give up after
`rejectionLimit` draws, an event of probability below `2⁻²⁵⁶`.
-/

set_option autoImplicit false

namespace ArithQuiz.Random

/-- Draws a rejection loop may take before it gives up. -/
def rejectionLimit : Nat := 256

/-- `2 ^ 64`. -/
def wordRange64 : Nat := Nat.pow 2 64

/-- The acceptance zone for a range size `r` in words of `bits` bits: the
largest multiple of `r` below the word range that the shift by the leading
zeros reaches, minus one. -/
def zone (bits r : Nat) : Nat :=
  (r <<< (bits - 1 - Nat.log2 r)) % (1 <<< bits) - 1

/-- A 64-bit word read as a signed two's complement integer. -/
def signed64 (v : Nat) : Int :=
  if v < Nat.pow 2 63 then (v : Int) else (v : Int) - (wordRange64 : Int)

namespace Stream

/-- Rejection sampling of `lo + ⌊v · r / 2⁶⁴⌋` over 64-bit words `v`. -/
def uniformLoop (lo : Int) (r z : Nat) : Nat → Stream → Int × Stream
  | 0, g => (lo, g)
  | fuel + 1, g =>
    let (v, g) := g.nextWord64
    let m := v.toNat * r
    if m % wordRange64 ≤ z then (lo + (m / wordRange64 : Nat), g)
    else uniformLoop lo r z fuel g

/-- An integer of `lo..=hi`; the bounds are 64-bit signed integers with `lo ≤ hi`. -/
def uniformInt (lo hi : Int) (g : Stream) : Int × Stream :=
  let r := (hi - lo + 1).toNat % wordRange64
  if r = 0 then
    let (v, g) := g.nextWord64
    (signed64 v.toNat, g)
  else uniformLoop lo r (zone 64 r) rejectionLimit g

/-- Rejection sampling of `⌊v · len / 2³²⌋` over 32-bit words `v`. For
`len < 2³²` the product of two 32-bit numbers fits a 64-bit word: its low
half is checked against the zone `z` and its high half is the position. -/
def indexLoop (len z : UInt64) : Nat → Stream → Nat × Stream
  | 0, g => (0, g)
  | fuel + 1, g =>
    let (v, g) := g.nextWord
    let m := v.toUInt64 * len
    if m &&& 0xFFFFFFFF ≤ z then ((m >>> 32).toNat, g)
    else indexLoop len z fuel g

/-- A position below `len`, for `0 < len < 2³²`. -/
def index (len : Nat) (g : Stream) : Nat × Stream :=
  indexLoop len.toUInt64 (zone 32 len).toUInt64 rejectionLimit g

/-- `true` with probability `p` for `0 ≤ p ≤ 1`: a 64-bit word below
`⌊p · 2⁶⁴⌋`, computed on the numerator and denominator; `p = 1` takes no
word. -/
def bernoulli (p : Rat) (g : Stream) : Bool × Stream :=
  if p = 1 then (true, g)
  else
    let threshold := p.num.toNat * wordRange64 / p.den
    let (v, g) := g.nextWord64
    (decide (v.toNat < threshold), g)

end Stream

/-- The seeded word stream as a source of draws. -/
instance : DrawSource Stream where
  uniformInt := Stream.uniformInt
  index := Stream.index
  bernoulli := Stream.bernoulli

end ArithQuiz.Random
