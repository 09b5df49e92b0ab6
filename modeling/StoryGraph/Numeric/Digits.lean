namespace StoryGraph.Numeric

def greatestWord : Nat := 0xFFFFFFFFFFFFFFFF

def isDigit (c : Char) : Bool := '0' ≤ c && c ≤ '9'

def digitValue (c : Char) : Nat := c.toNat - '0'.toNat

def valueFrom (start : Nat) (digits : List Char) : Nat :=
  digits.foldl (fun n c ↦ 10 * n + digitValue c) start

def value (digits : List Char) : Nat := valueFrom 0 digits

def spanDigits (cs : List Char) : List Char × List Char := cs.span isDigit

def hexValue? (c : Char) : Option Nat :=
  if isDigit c then some (digitValue c)
  else if 'a' ≤ c && c ≤ 'f' then some (c.toNat - 'a'.toNat + 10)
  else if 'A' ≤ c && c ≤ 'F' then some (c.toNat - 'A'.toNat + 10)
  else none

def hexDigit (n : Nat) : Char :=
  if n < 10 then Char.ofNat ('0'.toNat + n) else Char.ofNat ('a'.toNat + (n - 10))

def hexPadded : Nat → Nat → List Char
  | 0, _ => []
  | width + 1, n => hexPadded width (n / 16) ++ [hexDigit (n % 16)]

end StoryGraph.Numeric
