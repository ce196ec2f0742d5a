import Mathlib.Algebra.Order.Ring.Rat

/-!
# Floating-point arithmetic, uninterpreted

Programs that compute with floats are followed here down to the order of
their operations and no further: what an operation gives is left open, and so
is what rounding does.
-/

/-- The operations on `float` that a program uses. -/
structure CFloat (F : Type*) where
  /-- A constant. -/
  lit : ℚ → F
  /-- An integer converted. -/
  ofInt : ℤ → F
  add : F → F → F
  sub : F → F → F
  mul : F → F → F
  div : F → F → F
  neg : F → F
  lt : F → F → Bool
  le : F → F → Bool
  fmax : F → F → F
  fmin : F → F → F
  cos : F → F
  sin : F → F

/-- Zero, which is also what cleared memory holds. -/
def CFloat.zero {F : Type*} (ops : CFloat F) : F :=
  ops.lit 0

/-- Rational numbers in place of floats, with the beginnings of the series of
the cosine and the sine. -/
def CFloat.rational : CFloat ℚ where
  lit x := x
  ofInt x := x
  add x y := x + y
  sub x y := x - y
  mul x y := x * y
  div x y := x / y
  neg x := -x
  lt x y := decide (x < y)
  le x y := decide (x ≤ y)
  fmax x y := max x y
  fmin x y := min x y
  cos x := 1 - x * x / 2
  sin x := x
