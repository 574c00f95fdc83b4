/-!
# Exact decimals

A `Decimal` is an exact rational number. Quizzes compute with it without ever
rounding: the only rounding happens when a value is written as text
(`ArithQuiz.Decimal.Text`).

This module holds the type, its arithmetic and the three predicates the
evaluator and the reports ask about (`isInteger`, `isNegative`, `isZero`).
Division is the one partial operation: `div?` refuses a zero divisor.
-/

set_option autoImplicit false

namespace ArithQuiz

/-- An exact decimal number, held as the rational it denotes. -/
structure Decimal where
  /-- The exact value. -/
  toRat : Rat
deriving DecidableEq, Inhabited

namespace Decimal

/-- The decimal zero, also the default value. -/
def zero : Decimal := ⟨0⟩

/-- The decimal denoting an integer. -/
def ofInt (n : Int) : Decimal := ⟨n⟩

instance : Add Decimal := ⟨fun a b => ⟨a.toRat + b.toRat⟩⟩
instance : Sub Decimal := ⟨fun a b => ⟨a.toRat - b.toRat⟩⟩
instance : Mul Decimal := ⟨fun a b => ⟨a.toRat * b.toRat⟩⟩

instance : LT Decimal := ⟨fun a b => a.toRat < b.toRat⟩
instance : LE Decimal := ⟨fun a b => a.toRat ≤ b.toRat⟩

instance (a b : Decimal) : Decidable (a < b) :=
  inferInstanceAs (Decidable (a.toRat < b.toRat))

instance (a b : Decimal) : Decidable (a ≤ b) :=
  inferInstanceAs (Decidable (a.toRat ≤ b.toRat))

/-- The quotient, or `none` when the divisor is zero. -/
def div? (a b : Decimal) : Option Decimal :=
  if b.toRat = 0 then none else some ⟨a.toRat / b.toRat⟩

/-- A value has no fractional part exactly when its reduced denominator is one. -/
def isInteger (d : Decimal) : Bool := d.toRat.den == 1

/-- Whether the value lies strictly below zero. -/
def isNegative (d : Decimal) : Bool := decide (d.toRat < 0)

/-- Whether the value is exactly zero. -/
def isZero (d : Decimal) : Bool := d.toRat == 0

/-- The sign of `a - b`: `-1`, `0` or `1`. -/
def compare (a b : Decimal) : Int :=
  if a.toRat < b.toRat then -1 else if a.toRat = b.toRat then 0 else 1

@[simp] theorem toRat_add (a b : Decimal) : (a + b).toRat = a.toRat + b.toRat := rfl

@[simp] theorem toRat_sub (a b : Decimal) : (a - b).toRat = a.toRat - b.toRat := rfl

@[simp] theorem toRat_mul (a b : Decimal) : (a * b).toRat = a.toRat * b.toRat := rfl

/-- Division fails exactly on a zero divisor, and otherwise divides the rationals. -/
theorem div?_eq (a b : Decimal) :
    a.div? b = if b.toRat = 0 then none else some ⟨a.toRat / b.toRat⟩ := rfl

end Decimal

end ArithQuiz
