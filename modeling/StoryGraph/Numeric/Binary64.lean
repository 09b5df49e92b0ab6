import StoryGraph.Numeric.Digits

namespace StoryGraph.Numeric

/-- A finite binary64 number, `±mantissa * 2 ^ exponent`. The numbers built here have a mantissa
below `2 ^ 53` and an exponent from `-1074` to `971`. -/
structure Binary64 where
  negative : Bool
  mantissa : Nat
  exponent : Int
  deriving DecidableEq, Repr, Inhabited

namespace Binary64

def minExponent : Int := -1074

def maxExponent : Int := 971

def zero (negative : Bool) : Binary64 := ⟨negative, 0, minExponent⟩

def isZero (x : Binary64) : Bool := x.mantissa == 0

def scaled (num den : Nat) (exponent : Int) : Nat × Nat :=
  (num * Nat.pow 2 (-exponent).toNat, den * Nat.pow 2 exponent.toNat)

/-- The integer nearest to `num / den`; a half goes to the even neighbour. -/
def nearest (num den : Nat) : Nat :=
  let quotient := num / den
  let twice := 2 * (num % den)
  if twice < den || (twice == den && quotient % 2 == 0) then quotient else quotient + 1

/-- The exponent at which the integer part of `num / den` has 53 bits, or the least exponent. -/
def exponentFor (num den : Nat) : Int :=
  let guess : Int := (Nat.log2 num : Int) - (Nat.log2 den : Int) - 52
  let (n, d) := scaled num den guess
  max minExponent (if n < d * Nat.pow 2 52 then guess - 1 else guess)

def bounded? (negative : Bool) (mantissa : Nat) (exponent : Int) : Option Binary64 :=
  if maxExponent < exponent then none else some ⟨negative, mantissa, exponent⟩

def ofRatio? (negative : Bool) (num den : Nat) : Option Binary64 :=
  let exponent := exponentFor num den
  let (n, d) := scaled num den exponent
  let mantissa := nearest n d
  if mantissa < Nat.pow 2 53 then bounded? negative mantissa exponent
  else bounded? negative (mantissa / 2) (exponent + 1)

/-- The binary64 number nearest to `coefficient * 10 ^ power`, or `none` where that would be
infinite. Numbers whose magnitude lies far outside the format are settled by their digit count, so
no power of ten beyond a few hundred is ever formed. -/
def ofDecimal? (negative : Bool) (coefficient : Nat) (power : Int) : Option Binary64 :=
  if coefficient = 0 then some (zero negative)
  else
    let leading : Int := (Nat.log2 coefficient * 30103 / 100000 : Nat) + power
    if 320 < leading then none
    else if leading < -400 then some (zero negative)
    else ofRatio? negative (coefficient * Nat.pow 10 power.toNat) (Nat.pow 10 (-power).toNat)

end Binary64

end StoryGraph.Numeric
