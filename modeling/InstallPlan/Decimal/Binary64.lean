/-!
# Decimal — Binary floating-point numbers

Finite binary floating-point numbers of 64 bits as exact values
`± mantissa · 2 ^ exponent`, with rounding of a quotient to the nearest such
number, ties to the even mantissa. All arithmetic is on natural numbers.
-/

namespace InstallPlan

/-- The quotient rounded to the nearest integer, a tie to the even one. -/
def roundHalfEven (num den : Nat) : Nat :=
  let quotient := num / den
  let rest := num % den
  if 2 * rest < den then quotient
  else if den < 2 * rest then quotient + 1
  else quotient + quotient % 2

/-- A finite number `± mantissa · 2 ^ exponent`. -/
structure Binary64 where
  negative : Bool
  mantissa : Nat
  exponent : Int
  deriving DecidableEq, Repr, Inhabited

namespace Binary64

/-- The least exponent. -/
def minExponent : Int := -1074

/-- The greatest exponent. -/
def maxExponent : Int := 971

/-- The first mantissa that is too large. -/
def mantissaBound : Nat := Nat.pow 2 53

/-- Zero, with a sign. -/
def zero (negative : Bool) : Binary64 := ⟨negative, 0, minExponent⟩

/-- Whether the number is zero, of either sign. -/
def isZero (x : Binary64) : Bool := x.mantissa == 0

/-- The number with its sign set. -/
def withSign (negative : Bool) (x : Binary64) : Binary64 := { x with negative }

/-- A quotient divided by a power of two. -/
def scale (num den : Nat) (exponent : Int) : Nat × Nat :=
  (num * Nat.pow 2 (-exponent).toNat, den * Nat.pow 2 exponent.toNat)

/-- The number nearest to a quotient, ties to the even mantissa; nothing when
the quotient is too large. -/
def ofQuotient? (num den : Nat) : Option Binary64 :=
  if num = 0 then some (zero false)
  else
    let guess := max ((num.log2 : Int) - den.log2 - 53) minExponent
    let (n, d) := scale num den guess
    let exponent := if mantissaBound * d ≤ n then guess + 1 else guess
    let (n, d) := scale num den exponent
    let mantissa := roundHalfEven n d
    let (mantissa, exponent) :=
      if mantissa = mantissaBound then (mantissaBound / 2, exponent + 1) else (mantissa, exponent)
    if maxExponent < exponent then none else some ⟨false, mantissa, exponent⟩

/-- The absolute value as a quotient. -/
def quotient (x : Binary64) : Nat × Nat :=
  (x.mantissa * Nat.pow 2 x.exponent.toNat, Nat.pow 2 (-x.exponent).toNat)

/-- The rounded product of two absolute values. -/
def mul? (x y : Binary64) : Option Binary64 :=
  ofQuotient? (x.quotient.1 * y.quotient.1) (x.quotient.2 * y.quotient.2)

/-- The rounded quotient of two absolute values. -/
def div? (x y : Binary64) : Option Binary64 :=
  ofQuotient? (x.quotient.1 * y.quotient.2) (x.quotient.2 * y.quotient.1)

/-- The number nearest to `digits · 10 ^ exponent`. -/
def ofDecimal? (digits : Nat) (exponent : Int) : Option Binary64 :=
  ofQuotient? (digits * Nat.pow 10 exponent.toNat) (Nat.pow 10 (-exponent).toNat)

end Binary64

end InstallPlan
