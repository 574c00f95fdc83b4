/-!
# Blank characters

The Unicode `White_Space` property: the characters that trimming removes and
that make an identifier blank. It holds the ASCII blanks (tab, line feed,
vertical tab, form feed, carriage return, space) and nineteen others, such as
the no-break space and the ideographic space.

Main statement: `isBlank_of_isWhitespace`, every character that core calls
whitespace is blank here too.
-/

set_option autoImplicit false

namespace ArithQuiz.Text

/-- The code points of the Unicode `White_Space` property, in increasing order. -/
def blankCodePoints : List Nat :=
  [0x09, 0x0A, 0x0B, 0x0C, 0x0D, 0x20, 0x85, 0xA0, 0x1680,
    0x2000, 0x2001, 0x2002, 0x2003, 0x2004, 0x2005, 0x2006, 0x2007, 0x2008, 0x2009, 0x200A,
    0x2028, 0x2029, 0x202F, 0x205F, 0x3000]

/-- Membership in the Unicode `White_Space` property. Below `0x80` the blanks
are the space and the range from tab to carriage return, so the table is
searched only for other characters. -/
def isBlank (c : Char) : Bool :=
  if c.toNat < 0x80 then c.toNat == 0x20 || (0x09 ≤ c.toNat && c.toNat ≤ 0x0D)
  else blankCodePoints.contains c.toNat

/-- Drops blank characters from both ends. -/
def trimBlank (cs : List Char) : List Char :=
  ((cs.dropWhile isBlank).reverse.dropWhile isBlank).reverse

/-- Whether a text holds blank characters only. -/
def isBlankText (s : String) : Bool := s.toList.all isBlank

/-- Core's whitespace (space, tab, line feed, carriage return) is blank. -/
theorem isBlank_of_isWhitespace (c : Char) (h : c.isWhitespace = true) : isBlank c = true := by
  have hn : c.toNat = 0x20 ∨ c.toNat = 0x09 ∨ c.toNat = 0x0D ∨ c.toNat = 0x0A := by
    simp only [Char.isWhitespace, Bool.or_eq_true, decide_eq_true_eq] at h
    rcases h with ((h | h) | h) | h <;> subst h <;> simp
  simp only [isBlank, blankCodePoints]
  rcases hn with h | h | h | h <;> simp [h]

/-- The fast path agrees with the table. -/
theorem isBlank_eq_contains (c : Char) : isBlank c = blankCodePoints.contains c.toNat := by
  unfold isBlank
  split
  · rename_i h
    have key : ∀ n, n < 0x80 →
        (n == 0x20 || (decide (0x09 ≤ n) && decide (n ≤ 0x0D))) = blankCodePoints.contains n := by
      decide
    exact key _ h
  · rfl

/-- The table has six ASCII blanks and nineteen others. -/
example : blankCodePoints.length = 25 ∧ (blankCodePoints.filter (· < 0x80)).length = 6 := by
  decide

end ArithQuiz.Text
