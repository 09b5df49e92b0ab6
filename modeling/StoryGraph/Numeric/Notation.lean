import StoryGraph.Numeric.Shortest

namespace StoryGraph.Numeric

/-- Digits written positionally, with the decimal point after the first `point` of them. At least
one digit stands on either side of the point. -/
def positional (digits : List Char) (point : Int) : List Char :=
  if point ≤ 0 then '0' :: '.' :: (List.replicate (-point).toNat '0' ++ digits)
  else if digits.length ≤ point.toNat then
    digits ++ List.replicate (point.toNat - digits.length) '0' ++ ['.', '0']
  else digits.take point.toNat ++ '.' :: digits.drop point.toNat

def scientific (digits : List Char) (leading : Int) : List Char :=
  let fraction := digits.drop 1
  digits.take 1 ++ (if fraction.isEmpty then [] else '.' :: fraction) ++
    'e' :: (if leading < 0 then '-' else '+') :: Nat.toDigits 10 leading.natAbs

namespace Binary64

def signed (x : Binary64) (text : List Char) : String :=
  String.ofList (if x.negative then '-' :: text else text)

def plain (x : Binary64) : String :=
  if x.isZero then x.signed ['0', '.', '0']
  else
    let d := x.shortest
    x.signed (positional (Nat.toDigits 10 d.coefficient) (d.leading + 1))

/-- Positional when the leading digit stands for a power of ten from `-5` to `15`, scientific
otherwise. -/
def compact (x : Binary64) : String :=
  if x.isZero then x.signed ['0', '.', '0']
  else
    let d := x.shortest
    let digits := Nat.toDigits 10 d.coefficient
    x.signed
      (if -5 ≤ d.leading ∧ d.leading ≤ 15 then positional digits (d.leading + 1)
        else scientific digits d.leading)

end Binary64

end StoryGraph.Numeric
