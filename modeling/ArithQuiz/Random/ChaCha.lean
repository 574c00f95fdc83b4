/-!
# The ChaCha word stream

Quizzes are reproducible from a 64-bit seed. The seed is widened into a
256-bit key by a permuted congruential generator (`keyOfSeed`), and the key
drives the ChaCha block function with eight rounds, a 64-bit block counter
starting at zero and a zero nonce. The blocks, one after another, form one
endless stream of 32-bit words (`Stream.nextWord`); a 64-bit draw takes two
consecutive words, the low half first (`Stream.nextWord64`).
-/

set_option autoImplicit false

namespace ArithQuiz.Random

/-- A ChaCha state or block: sixteen 32-bit words. -/
abbrev Block := Vector UInt32 16

/-- Rotates a word left by `n` bits, `0 < n < 32`. -/
def rotl (x : UInt32) (n : UInt32) : UInt32 := (x <<< n) ||| (x >>> (32 - n))

/-- The quarter round on words `a b c d` of the state. -/
def quarterRound (s : Block) (a b c d : Fin 16) : Block :=
  let va := s[a] + s[b]
  let vd := rotl (s[d] ^^^ va) 16
  let vc := s[c] + vd
  let vb := rotl (s[b] ^^^ vc) 12
  let va := va + vb
  let vd := rotl (vd ^^^ va) 8
  let vc := vc + vd
  let vb := rotl (vb ^^^ vc) 7
  ((((s.set a va).set b vb).set c vc).set d vd)

/-- A column round followed by a diagonal round. -/
def doubleRound (s : Block) : Block :=
  let s := quarterRound s 0 4 8 12
  let s := quarterRound s 1 5 9 13
  let s := quarterRound s 2 6 10 14
  let s := quarterRound s 3 7 11 15
  let s := quarterRound s 0 5 10 15
  let s := quarterRound s 1 6 11 12
  let s := quarterRound s 2 7 8 13
  quarterRound s 3 4 9 14

/-- Applies `doubleRound` `n` times. -/
def doubleRounds : Nat → Block → Block
  | 0, s => s
  | n + 1, s => doubleRounds n (doubleRound s)

/-- The input state: the constants of "expand 32-byte k", the key, the block
counter in words 12 and 13, and a zero nonce. -/
def initialState (key : Vector UInt32 8) (counter : UInt64) : Block :=
  #v[0x61707865, 0x3320646e, 0x79622d32, 0x6b206574,
    key[0], key[1], key[2], key[3], key[4], key[5], key[6], key[7],
    counter.toUInt32, (counter >>> 32).toUInt32, 0, 0]

/-- The output block for a key and counter: four double rounds (ChaCha with
eight rounds), then the input state added word by word. -/
def block (key : Vector UInt32 8) (counter : UInt64) : Block :=
  let input := initialState key counter
  Vector.zipWith (· + ·) (doubleRounds 4 input) input

/-- One step of the seed widener: advance the congruential state and output a
permuted 32-bit word. -/
def widenStep (state : UInt64) : UInt32 × UInt64 :=
  let s := state * 6364136223846793005 + 11634580027462260723
  let x : UInt32 := (((s >>> 18) ^^^ s) >>> 27).toUInt32
  let r : UInt32 := (s >>> 59).toUInt32
  ((x >>> r) ||| (x <<< ((32 - r) % 32)), s)

/-- The eight key words widened from a 64-bit seed. -/
def keyWords : Nat → UInt64 → List UInt32
  | 0, _ => []
  | n + 1, s => let (w, s') := widenStep s; w :: keyWords n s'

/-- The 256-bit key for a seed. -/
def keyOfSeed (seed : UInt64) : Vector UInt32 8 :=
  ⟨(keyWords 8 seed).toArray, by simp [keyWords]⟩

/-- A position in the word stream of a key: the words of the current block not
yet taken and the counter of the next block. -/
structure Stream where
  /-- The key. -/
  key : Vector UInt32 8
  /-- Counter of the block that follows the buffered words. -/
  nextBlock : UInt64
  /-- Words of the current block not yet taken. -/
  buffered : List UInt32

namespace Stream

/-- The stream of a seed, at its first word. -/
def ofSeed (seed : UInt64) : Stream := ⟨keyOfSeed seed, 0, []⟩

/-- The next word of the stream. -/
def nextWord (g : Stream) : UInt32 × Stream :=
  match g.buffered with
  | w :: rest => (w, { g with buffered := rest })
  | [] =>
    match (block g.key g.nextBlock).toList with
    | w :: rest => (w, { g with nextBlock := g.nextBlock + 1, buffered := rest })
    | [] => (0, g)

/-- The next 64-bit word: two words of the stream, the first one low. -/
def nextWord64 (g : Stream) : UInt64 × Stream :=
  let (lo, g) := g.nextWord
  let (hi, g) := g.nextWord
  ((hi.toUInt64 <<< 32) ||| lo.toUInt64, g)

/-- The next `n` words. -/
def words : Nat → Stream → List UInt32
  | 0, _ => []
  | n + 1, g => let (w, g) := g.nextWord; w :: words n g

end Stream

end ArithQuiz.Random
