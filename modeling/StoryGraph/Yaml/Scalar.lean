import StoryGraph.Numeric.Binary64

namespace StoryGraph.Yaml

open Numeric

def isBreak (c : Char) : Bool :=
  c == '\n' || c == '\r' || c == '\u0085' || c == '\u2028' || c == '\u2029'

def isBlank (c : Char) : Bool := c == ' ' || c == '\t'

def isPrintable (c : Char) : Bool :=
  let n := c.toNat
  n == 0x0A || (0x20 ≤ n && n ≤ 0x7E) || (0xA0 ≤ n && n ≤ 0xFFFD && n != 0xFEFF) || 0x10000 ≤ n

def endsWord : List Char → Bool
  | [] => true
  | c :: _ => isBlank c || isBreak c || c == '\x00'

def truthWords : List String := ["true", "True", "TRUE", "false", "False", "FALSE"]

def nullWords : List String := ["", "~", "null", "Null", "NULL"]

def floatWords : List String :=
  [".inf", ".Inf", ".INF", "+.inf", "+.Inf", "+.INF", "-.inf", "-.Inf", "-.INF", ".nan", ".NaN",
    ".NAN"]

def isHex (c : Char) : Bool := (hexValue? c).isSome

def allOf (kind : Char → Bool) (cs : List Char) : Bool := !cs.isEmpty && cs.all kind

def unsigned : List Char → List Char
  | '+' :: cs | '-' :: cs => cs
  | cs => cs

def isRadix (base : Nat) (kind : Char → Bool) (negative : Bool) (cs : List Char) : Bool :=
  let n := cs.foldl (fun n c ↦ base * n + (hexValue? c).getD 0) 0
  allOf kind cs && (if negative then n ≤ Nat.pow 2 127 else n < Nat.pow 2 128)

def isMarkedInteger (cs : List Char) : Bool :=
  let negative := cs.head? = some '-'
  match unsigned cs with
  | '0' :: 'x' :: cs => isRadix 16 isHex negative cs
  | '0' :: 'o' :: cs => isRadix 8 (fun c ↦ '0' ≤ c && c ≤ '7') negative cs
  | '0' :: 'b' :: cs => isRadix 2 (fun c ↦ c == '0' || c == '1') negative cs
  | _ => false

def isPadded (cs : List Char) : Bool :=
  match unsigned cs with
  | '0' :: cs => allOf isDigit cs
  | _ => false

def power? : List Char → Option Int
  | [] => some 0
  | c :: cs =>
    if c = 'e' ∨ c = 'E' then
      let digits := unsigned cs
      let n : Int := value digits
      if allOf isDigit digits then some (if cs.head? = some '-' then -n else n) else none
    else none

/-- A decimal number, with or without fraction and power of ten, that is not too large for
binary64. -/
def isDecimal (cs : List Char) : Bool :=
  let (whole, rest) := spanDigits (unsigned cs)
  let (fraction, rest) := match rest with
    | '.' :: rest => spanDigits rest
    | rest => ([], rest)
  let digits := whole ++ fraction
  !digits.isEmpty &&
    match power? rest with
    | some power => (Binary64.ofDecimal? false (value digits) (power - fraction.length)).isSome
    | none => false

/-- A text that would be read as null, a truth value or a number. -/
def isAmbiguous (s : String) : Bool :=
  nullWords.contains s || truthWords.contains s || floatWords.contains s ||
    isMarkedInteger s.toList || isPadded s.toList || isDecimal s.toList

def indicators : List Char :=
  ['#', ',', '[', ']', '{', '}', '&', '*', '!', '|', '>', '\x27', '"', '%', '@', '\x60']

def beginsWithMark : List Char → Bool
  | '-' :: '-' :: '-' :: _ => true
  | '.' :: '.' :: '.' :: _ => true
  | c :: cs => indicators.contains c || ((c == '?' || c == ':' || c == '-') && endsWord cs)
  | [] => false

def holdsMark : List Char → Bool
  | [] => false
  | ':' :: cs => endsWord cs || holdsMark cs
  | c :: '#' :: cs => isBlank c || isBreak c || c == '\x00' || holdsMark ('#' :: cs)
  | _ :: cs => holdsMark cs

def hasPair (first second : Char → Bool) : List Char → Bool
  | a :: b :: cs => (first a && second b) || hasPair first second (b :: cs)
  | _ => false

def isSpace (c : Char) : Bool := c == ' '

/-- A text that needs escapes: a character cannot stand as it is, or a space would be lost before a
line break. -/
def needsEscapes (cs : List Char) : Bool := !cs.all isPrintable || hasPair isSpace isBreak cs

def isPlain (cs : List Char) : Bool :=
  !(beginsWithMark cs || holdsMark cs || needsEscapes cs || cs.any isBreak ||
    cs.head? = some ' ' || cs.getLast? = some ' ')

inductive Style where
  | plain
  | apostrophes
  | lines
  | quotes
  deriving DecidableEq, Repr, Inhabited

def styleOf (s : String) : Style :=
  let cs := s.toList
  if isAmbiguous s then .apostrophes
  else if cs.contains '\n' then
    if needsEscapes cs || cs.getLast? = some ' ' then .quotes else .lines
  else if isPlain cs then .plain
  else if needsEscapes cs || hasPair isBreak isSpace cs then .quotes
  else .apostrophes

def spaces (n : Nat) : List Char := List.replicate n ' '

def indented (indent : Nat) : Bool → List Char → List Char
  | _, [] => []
  | afterBreak, c :: cs =>
    if isBreak c then c :: indented indent true cs
    else (if afterBreak then spaces indent else []) ++ c :: indented indent false cs

def apostrophes (indent : Nat) (cs : List Char) : List Char :=
  let text := cs.flatMap fun c ↦ if c == '\x27' then ['\x27', '\x27'] else [c]
  let last := if (cs.getLast?.map isBreak).getD false then spaces indent else []
  '\x27' :: (indented indent false text ++ last ++ ['\x27'])

def hintSign (cs : List Char) : List Char :=
  match cs.head? with
  | some c => if isSpace c || isBreak c then ['2'] else []
  | none => []

def endSign (cs : List Char) : List Char :=
  match cs.reverse with
  | a :: b :: _ => if !isBreak a then ['-'] else if isBreak b then ['+'] else []
  | [a] => if isBreak a then ['+'] else ['-']
  | [] => ['-']

def lineSigns (cs : List Char) : List Char := hintSign cs ++ endSign cs

def lines (indent : Nat) (cs : List Char) : List Char :=
  '|' :: (lineSigns cs ++ '\n' :: indented indent true cs)

def hexUpper (width n : Nat) : List Char := (hexPadded width n).map Char.toUpper

def escapeChar (c : Char) : List Char :=
  match c with
  | '"' => ['\\', '"']
  | '\\' => ['\\', '\\']
  | '\x00' => ['\\', '0']
  | '\x07' => ['\\', 'a']
  | '\x08' => ['\\', 'b']
  | '\t' => ['\\', 't']
  | '\n' => ['\\', 'n']
  | '\x0b' => ['\\', 'v']
  | '\x0c' => ['\\', 'f']
  | '\r' => ['\\', 'r']
  | '\x1b' => ['\\', 'e']
  | '\u0085' => ['\\', 'N']
  | '\u2028' => ['\\', 'L']
  | '\u2029' => ['\\', 'P']
  | c =>
    if isPrintable c then [c]
    else if c.toNat ≤ 0xFF then '\\' :: 'x' :: hexUpper 2 c.toNat
    else '\\' :: 'u' :: hexUpper 4 c.toNat

def quotes (cs : List Char) : List Char := '"' :: (cs.flatMap escapeChar ++ ['"'])

/-- A text whose further lines begin with so many spaces. It stands plain where no reader could take
it for anything else; otherwise between apostrophes, in lines of its own, or between quotes, in that
order of preference. -/
def scalar (indent : Nat) (s : String) : List Char :=
  match styleOf s with
  | .plain => s.toList
  | .apostrophes => apostrophes indent s.toList
  | .lines => lines indent s.toList
  | .quotes => quotes s.toList

end StoryGraph.Yaml
