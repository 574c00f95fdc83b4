import ArithQuiz.Json.Error

/-!
# Scanning JSON tokens

The scanners read one token from the front of a text, given as its list of
characters, and return the token and the rest of the text. A fault carries
the rest of the text where it was found and the number of bytes of that rest
already read, so that a fault is placed by bytes (`positionIn`), also inside
a character of several bytes.

Numbers are read in two steps, not by exact decimal rounding: the
digits are gathered into a 64-bit significand (digits past its capacity only
move the decimal exponent), then the double nearest to the significand is
multiplied or divided once by the double nearest to `10^|e|`; exponents
beyond `10^308` are first reduced by dividing by `1e308`. Integers without a
point or exponent keep their integer class when they fit in 64 bits.
-/

set_option autoImplicit false

namespace ArithQuiz.Json

/-- A fault found by a scanner: what, the rest of the text there, and whether
it concerns the next unread character. -/
structure Fault where
  /-- The kind of fault. -/
  kind : TextFault
  /-- The text not yet read when it was found. -/
  rest : List Char
  /-- Bytes of `rest` read when the fault was found; the fault is placed after them. -/
  readAhead : Nat := 0
deriving Inhabited

/-- The result of a scanner: a value and the rest of the text, or a fault. -/
abbrev Scan (α : Type) := Except Fault (α × List Char)

/-- A place in a text: bytes read, line (from 1) and the byte index at which
that line starts. -/
structure Place where
  /-- Bytes read. -/
  index : Nat := 0
  /-- The line, from 1. -/
  line : Nat := 1
  /-- The byte index at which the line starts. -/
  lineStart : Nat := 0

/-- The place after one more character; a line feed starts a new line. -/
def Place.next (p : Place) (c : Char) : Place :=
  let i := p.index + c.utf8Size
  if c = '\n' then ⟨i, p.line + 1, i⟩ else { p with index := i }

/-- The place after `n` more bytes of `cs`: whole characters first, then the
leading bytes of a character that is read only in part. -/
def Place.advance (p : Place) : Nat → List Char → Place
  | 0, _ => p
  | _, [] => p
  | n + 1, c :: rest =>
    if c.utf8Size ≤ n + 1 then (p.next c).advance (n + 1 - c.utf8Size) rest
    else { p with index := p.index + (n + 1) }

/-- The line and column after the bytes of `text` before its rest `rest` and
`readAhead` further bytes (fewer at the end of the text). Columns count
bytes since the last line feed. -/
def positionIn (text rest : List Char) (readAhead : Nat) : Position :=
  let consumed := text.take (text.length - rest.length)
  let p := (consumed.foldl Place.next {}).advance readAhead rest
  ⟨p.line, p.index - p.lineStart⟩

/-- The characters skipped between tokens. -/
def isBlank (c : Char) : Bool := c = ' ' || c = '\n' || c = '\t' || c = '\r'

/-- Drops the blanks at the front. -/
def skipBlanks : List Char → List Char
  | c :: rest => if isBlank c then skipBlanks rest else c :: rest
  | [] => []

theorem length_skipBlanks_le (cs : List Char) : (skipBlanks cs).length ≤ cs.length := by
  induction cs with
  | nil => simp [skipBlanks]
  | cons c rest ih =>
    simp only [skipBlanks]
    split
    · simp only [List.length_cons]; omega
    · simp

/-- Reads the rest of a literal word (`ull` after `n`, …), one character at a time. -/
def scanWord : List Char → List Char → Scan Unit
  | [], rest => .ok ((), rest)
  | _ :: _, [] => .error ⟨.eofInValue, [], 0⟩
  | w :: ws, c :: rest => if c = w then scanWord ws rest else .error ⟨.expectedIdent, c :: rest, 1⟩

/-- The value of a hexadecimal digit. -/
def hexValue? (c : Char) : Option Nat :=
  if '0' ≤ c ∧ c ≤ '9' then some (c.toNat - '0'.toNat)
  else if 'a' ≤ c ∧ c ≤ 'f' then some (c.toNat - 'a'.toNat + 10)
  else if 'A' ≤ c ∧ c ≤ 'F' then some (c.toNat - 'A'.toNat + 10)
  else none

/-- Whether a text holds at least `n` bytes; reads no further than needed. -/
def hasBytes (n : Nat) : List Char → Bool
  | [] => n = 0
  | c :: rest => n ≤ c.utf8Size || hasBytes (n - c.utf8Size) rest

/-- Reads the four hexadecimal digits of a `\u` escape. They are the next four
bytes of the text: fewer than four left is the end of the text, and a byte
that is not an ASCII hexadecimal digit (such as a byte of a longer
character) makes the escape invalid, placed after the four bytes. -/
def scanHex4 (cs : List Char) : Scan Nat :=
  if !hasBytes 4 cs then .error ⟨.eofInString, [], 0⟩
  else
    match cs with
    | a :: b :: c :: d :: rest =>
      match hexValue? a, hexValue? b, hexValue? c, hexValue? d with
      | some x, some y, some z, some w => .ok (((x * 16 + y) * 16 + z) * 16 + w, rest)
      | _, _, _, _ => .error ⟨.invalidEscape, cs, 4⟩
    | _ => .error ⟨.invalidEscape, cs, 4⟩

/-- Whether a code unit is a trailing surrogate. -/
def isTrailingSurrogate (n : Nat) : Bool := 0xDC00 ≤ n && n ≤ 0xDFFF

/-- Whether a code unit is a leading surrogate. -/
def isLeadingSurrogate (n : Nat) : Bool := 0xD800 ≤ n && n ≤ 0xDBFF

/-- Reads a `\u` escape after its `u`: one code unit, or a surrogate pair. -/
def scanUnicode (cs : List Char) : Scan Char :=
  match scanHex4 cs with
  | .error f => .error f
  | .ok (n, rest) =>
    if isTrailingSurrogate n then .error ⟨.loneSurrogate, rest, 0⟩
    else if !isLeadingSurrogate n then .ok (Char.ofNat n, rest)
    else
      match rest with
      | [] => .error ⟨.eofInString, [], 0⟩
      | '\\' :: [] => .error ⟨.eofInString, [], 0⟩
      | '\\' :: 'u' :: rest =>
        match scanHex4 rest with
        | .error f => .error f
        | .ok (m, rest) =>
          if isTrailingSurrogate m then
            .ok (Char.ofNat (0x10000 + (n - 0xD800) * 0x400 + (m - 0xDC00)), rest)
          else .error ⟨.loneSurrogate, rest, 0⟩
      | '\\' :: c :: rest => .error ⟨.unexpectedEndOfHexEscape, c :: rest, 1⟩
      | c :: rest => .error ⟨.unexpectedEndOfHexEscape, c :: rest, 1⟩

/-- Reads an escape after its backslash. -/
def scanEscape : List Char → Scan Char
  | [] => .error ⟨.eofInString, [], 0⟩
  | c :: rest =>
    match c with
    | '"' => .ok ('"', rest)
    | '\\' => .ok ('\\', rest)
    | '/' => .ok ('/', rest)
    | 'b' => .ok (Char.ofNat 8, rest)
    | 'f' => .ok (Char.ofNat 12, rest)
    | 'n' => .ok ('\n', rest)
    | 'r' => .ok ('\r', rest)
    | 't' => .ok ('\t', rest)
    | 'u' => scanUnicode rest
    | _ => .error ⟨.invalidEscape, c :: rest, 1⟩

-- `hcs` is read only by the termination proof.
set_option linter.unusedVariables false in
/-- Reads the characters of a string after its opening quote, up to and
including the closing quote. -/
def scanStringFrom (acc : List Char) (cs : List Char) : Scan String :=
  match hcs : cs with
  | [] => .error ⟨.eofInString, [], 0⟩
  | '"' :: rest => .ok (String.ofList acc.reverse, rest)
  | '\\' :: rest =>
    match scanEscape rest with
    | .error f => .error f
    | .ok (c, rest') =>
      if rest'.length < cs.length then scanStringFrom (c :: acc) rest'
      else .error ⟨.eofInString, [], 0⟩
  | c :: rest =>
    if c.toNat < 0x20 then .error ⟨.controlCharacter, rest, 0⟩
    else scanStringFrom (c :: acc) rest
termination_by cs.length
decreasing_by all_goals (subst hcs; simp_all)

/-- Reads a string after its opening quote. -/
def scanString (cs : List Char) : Scan String := scanStringFrom [] cs

-- `hcs` and `hr` are read only by the termination proof.
set_option linter.unusedVariables false in
/-- Skips a string after its opening quote, checking its escapes. A control
character is reported before it is read. -/
def skipStringFrom (cs : List Char) : Scan Unit :=
  match hcs : cs with
  | [] => .error ⟨.eofInString, [], 0⟩
  | '"' :: rest => .ok ((), rest)
  | '\\' :: rest =>
    match hr : rest with
    | [] => .error ⟨.eofInString, [], 0⟩
    | e :: rest' =>
      if e = 'u' then
        match scanHex4 rest' with
        | .error f => .error f
        | .ok (_, rest'') =>
          if rest''.length < cs.length then skipStringFrom rest''
          else .error ⟨.eofInString, [], 0⟩
      else if e = '"' ∨ e = '\\' ∨ e = '/' ∨ e = 'b' ∨ e = 'f' ∨ e = 'n' ∨ e = 'r' ∨ e = 't' then
        skipStringFrom rest'
      else .error ⟨.invalidEscape, e :: rest', 1⟩
  | c :: rest =>
    if c.toNat < 0x20 then .error ⟨.controlCharacter, c :: rest, 0⟩
    else skipStringFrom rest
termination_by cs.length
decreasing_by
  · simp_all
  · subst hcs hr; simp only [List.length_cons]; omega
  · subst hcs; simp

/-! ## Numbers -/

/-- `2 ^ 64 - 1`, the largest significand. -/
def maxSignificand : Nat := Nat.pow 2 64 - 1

/-- `2 ^ 31 - 1`, the largest exponent value. -/
def maxExponentValue : Int := Int.pow 2 31 - 1

/-- The value of an ASCII digit. -/
def digitValue (c : Char) : Nat := c.toNat - '0'.toNat

/-- Whether `10 · a + d` exceeds `limit`. -/
def overflows (a d limit : Nat) : Bool :=
  a ≥ limit / 10 && (a > limit / 10 || d > limit % 10)

/-- Clamps an integer to the 32-bit signed range. -/
def clamp32 (e : Int) : Int := max (-(Int.pow 2 31)) (min e (Int.pow 2 31 - 1))

/-- The double nearest to `10 ^ k`, `k ≤ 308`. -/
def powerOfTen (k : Nat) : Binary64 := (Binary64.ofRat ((Nat.pow 10 k : Nat) : Rat)).getD (Binary64.zero false)

/-- Scales the double of the significand by `10 ^ e`: one rounded multiply or
divide, after dividing by `1e308` while the exponent is below `-308`. `none`
when the result overflows. -/
def scaleByTen (f : Binary64) (e : Int) : Option Binary64 :=
  if e.natAbs ≤ 308 then
    if 0 ≤ e then f.mul (powerOfTen e.toNat) else f.div (powerOfTen e.natAbs)
  else if f.isZero then some f
  else if 0 ≤ e then none
  else
    match f.div (powerOfTen 308) with
    | some g => scaleByTen g (e + 308)
    | none => none
termination_by e.natAbs
decreasing_by omega

/-- The double `± significand · 10 ^ e` by the reading rule. -/
def floatOfParts (positive : Bool) (significand : Nat) (e : Int) (rest : List Char) :
    Scan Number :=
  match scaleByTen (Binary64.ofNat significand) e with
  | some f => .ok (.float (if positive then f else f.neg), rest)
  | none => .error ⟨.numberOutOfRange, rest, 0⟩

/-- Skips digits. -/
def skipDigits : List Char → List Char
  | c :: rest => if c.isDigit then skipDigits rest else c :: rest
  | [] => []

/-- After an exponent too large for 32 bits: out of range unless the value is
zero or the exponent negative, which read as a zero. -/
def exponentOverflow (positive zeroSignificand positiveExp : Bool) (rest : List Char) :
    Scan Number :=
  if !zeroSignificand && positiveExp then .error ⟨.numberOutOfRange, rest, 0⟩
  else .ok (.float (Binary64.zero !positive), skipDigits rest)

/-- Reads exponent digits after the first one. -/
def exponentDigits (positive : Bool) (significand : Nat) (start : Int) (positiveExp : Bool)
    (e : Nat) : List Char → Scan Number
  | c :: rest =>
    if c.isDigit then
      if overflows e (digitValue c) maxExponentValue.toNat then
        exponentOverflow positive (significand == 0) positiveExp rest
      else exponentDigits positive significand start positiveExp (10 * e + digitValue c) rest
    else
      let final := clamp32 (if positiveExp then start + e else start - e)
      floatOfParts positive significand final (c :: rest)
  | [] =>
    let final := clamp32 (if positiveExp then start + e else start - e)
    floatOfParts positive significand final []

/-- Reads an exponent after its `e`. -/
def scanExponent (positive : Bool) (significand : Nat) (start : Int) (cs : List Char) :
    Scan Number :=
  let (positiveExp, cs) := match cs with
    | '+' :: rest => (true, rest)
    | '-' :: rest => (false, rest)
    | _ => (true, cs)
  match cs with
  | [] => .error ⟨.eofInValue, [], 0⟩
  | c :: rest =>
    if c.isDigit then exponentDigits positive significand start positiveExp (digitValue c) rest
    else .error ⟨.invalidNumber, c :: rest, 1⟩

/-- Continues after the point once the significand is full: further digits
are dropped. -/
def afterFullFraction (positive : Bool) (significand : Nat) (e : Int) (cs : List Char) :
    Scan Number :=
  match skipDigits cs with
  | 'e' :: rest => scanExponent positive significand e rest
  | 'E' :: rest => scanExponent positive significand e rest
  | rest => floatOfParts positive significand e rest

/-- Reads fraction digits; `after` counts them (as a negative exponent). -/
def fractionDigits (positive : Bool) (significand : Nat) (before after : Int) :
    List Char → Scan Number
  | c :: rest =>
    if c.isDigit then
      if overflows significand (digitValue c) maxSignificand then
        afterFullFraction positive significand (before + after) (c :: rest)
      else fractionDigits positive (10 * significand + digitValue c) before (after - 1) rest
    else if after = 0 then .error ⟨.invalidNumber, c :: rest, 1⟩
    else
      match c with
      | 'e' => scanExponent positive significand (before + after) rest
      | 'E' => scanExponent positive significand (before + after) rest
      | _ => floatOfParts positive significand (before + after) (c :: rest)
  | [] =>
    if after = 0 then .error ⟨.eofInValue, [], 1⟩
    else floatOfParts positive significand (before + after) []

/-- Continues an integer part once the significand is full: each further digit
raises the decimal exponent. -/
def longIntegerDigits (positive : Bool) (significand : Nat) (e : Int) : List Char → Scan Number
  | c :: rest =>
    if c.isDigit then longIntegerDigits positive significand (e + 1) rest
    else
      match c with
      | '.' => fractionDigits positive significand e 0 rest
      | 'e' => scanExponent positive significand e rest
      | 'E' => scanExponent positive significand e rest
      | _ => floatOfParts positive significand e (c :: rest)
  | [] => floatOfParts positive significand e []

/-- What follows the integer digits: a fraction, an exponent, or the end of an
integer. A negative integer outside 64 bits, and `-0`, read as doubles. -/
def afterInteger (positive : Bool) (significand : Nat) (cs : List Char) : Scan Number :=
  match cs with
  | '.' :: rest => fractionDigits positive significand 0 0 rest
  | 'e' :: rest => scanExponent positive significand 0 rest
  | 'E' :: rest => scanExponent positive significand 0 rest
  | _ =>
    if positive then .ok (.nat significand, cs)
    else if significand = 0 then .ok (.float (Binary64.zero true), cs)
    else if significand ≤ Nat.pow 2 63 then .ok (.negInt (-(significand : Int)), cs)
    else .ok (.float (Binary64.ofNat significand).neg, cs)

/-- Reads integer digits after the first nonzero one. -/
def integerDigits (positive : Bool) (significand : Nat) : List Char → Scan Number
  | c :: rest =>
    if c.isDigit then
      if overflows significand (digitValue c) maxSignificand then
        longIntegerDigits positive significand 0 (c :: rest)
      else integerDigits positive (10 * significand + digitValue c) rest
    else afterInteger positive significand (c :: rest)
  | [] => afterInteger positive significand []

/-- Reads a number after its optional minus sign. -/
def scanNumber (positive : Bool) : List Char → Scan Number
  | [] => .error ⟨.eofInValue, [], 0⟩
  | c :: rest =>
    if c = '0' then
      match rest with
      | d :: _ => if d.isDigit then .error ⟨.invalidNumber, rest, 1⟩ else afterInteger positive 0 rest
      | [] => afterInteger positive 0 rest
    else if c.isDigit then integerDigits positive (digitValue c) rest
    else .error ⟨.invalidNumber, c :: rest, 1⟩

/-- Skips the fraction of a number after its point. -/
def skipFraction (cs : List Char) : Scan Unit :=
  match cs with
  | c :: _ =>
    if c.isDigit then
      match skipDigits cs with
      | 'e' :: rest => skipExponentPart rest
      | 'E' :: rest => skipExponentPart rest
      | rest => .ok ((), rest)
    else .error ⟨.invalidNumber, cs, 1⟩
  | [] => .error ⟨.invalidNumber, [], 1⟩
where
  /-- Skips an exponent after its `e`. -/
  skipExponentPart (cs : List Char) : Scan Unit :=
    let cs := match cs with
      | '+' :: rest => rest
      | '-' :: rest => rest
      | _ => cs
    match cs with
    | c :: rest => if c.isDigit then .ok ((), skipDigits rest) else .error ⟨.invalidNumber, c :: rest, 1⟩
    | [] => .error ⟨.invalidNumber, [], 0⟩

/-- Skips a number after its optional minus sign, checking its form only. -/
def skipNumber (cs : List Char) : Scan Unit :=
  let afterDigits (rest : List Char) : Scan Unit :=
    match rest with
    | '.' :: r => skipFraction r
    | 'e' :: r => skipFraction.skipExponentPart r
    | 'E' :: r => skipFraction.skipExponentPart r
    | _ => .ok ((), rest)
  match cs with
  | '0' :: rest =>
    match rest with
    | d :: _ => if d.isDigit then .error ⟨.invalidNumber, rest, 1⟩ else afterDigits rest
    | [] => afterDigits rest
  | c :: rest => if c.isDigit then afterDigits (skipDigits rest) else .error ⟨.invalidNumber, c :: rest, 1⟩
  | [] => .error ⟨.invalidNumber, [], 0⟩

end ArithQuiz.Json
