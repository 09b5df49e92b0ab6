import StoryGraph.Numeric.Binary64

namespace StoryGraph.Numeric

structure Decimal where
  coefficient : Nat
  power : Int
  deriving DecidableEq, Repr, Inhabited

namespace Decimal

def trimmed : Nat → Decimal → Decimal
  | 0, x => x
  | fuel + 1, x =>
    if x.coefficient % 10 = 0 then trimmed fuel ⟨x.coefficient / 10, x.power + 1⟩ else x

def leading (x : Decimal) : Int := (Nat.toDigits 10 x.coefficient).length - 1 + x.power

end Decimal

namespace Binary64

/-- A quarter of the spacing around a number, and the three points of interest in that unit: the
lower end, the number, and the upper end of the interval that rounds to it. -/
structure Interval where
  lower : Nat
  point : Nat
  upper : Nat
  unit : Int
  closed : Bool

def interval (x : Binary64) : Interval :=
  let narrow := x.mantissa = Nat.pow 2 52 ∧ minExponent < x.exponent
  { lower := 4 * x.mantissa - if narrow then 1 else 2
    point := 4 * x.mantissa
    upper := 4 * x.mantissa + 2
    unit := x.exponent - 2
    closed := x.mantissa % 2 == 0 }

def Interval.onGrid (i : Interval) (n : Nat) (power : Int) : Nat × Nat :=
  (n * Nat.pow 2 i.unit.toNat * Nat.pow 10 (-power).toNat,
    Nat.pow 2 (-i.unit).toNat * Nat.pow 10 power.toNat)

def Interval.holds (i : Interval) (power : Int) (k : Nat) : Bool :=
  let (low, den) := i.onGrid i.lower power
  let (high, _) := i.onGrid i.upper power
  if i.closed then low ≤ k * den && k * den ≤ high else low < k * den && k * den < high

def Interval.gridPoint? (i : Interval) (power : Int) : Option Nat :=
  let (num, den) := i.onGrid i.point power
  let below := num / den
  match i.holds power below, i.holds power (below + 1) with
  | true, true => some (nearest num den)
  | true, false => some below
  | false, true => some (below + 1)
  | false, false => none

/-- The greatest `k` up to a bound with `10 ^ k ≤ num / den`, counted down from the bound. -/
def decimalExponent (num den : Nat) : Nat → Int → Int
  | 0, k => k
  | fuel + 1, k =>
    if den * Nat.pow 10 k.toNat ≤ num * Nat.pow 10 (-k).toNat then k
    else decimalExponent num den fuel (k - 1)

def firstGridPoint (i : Interval) : Nat → Int → Decimal
  | 0, power => ⟨0, power⟩
  | fuel + 1, power =>
    match i.gridPoint? power with
    | some k => ⟨k, power⟩
    | none => firstGridPoint i fuel (power - 1)

/-- The shortest decimal that reads back as a nonzero number. -/
def shortest (x : Binary64) : Decimal :=
  let i := x.interval
  let (num, den) := i.onGrid i.point 0
  let guess : Int := ((Nat.log2 num : Int) - (Nat.log2 den : Int) + 1) * 30103 / 100000 + 1
  let leading := decimalExponent num den 4 guess
  (firstGridPoint i 18 leading).trimmed 18

end Binary64

end StoryGraph.Numeric
