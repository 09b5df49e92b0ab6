import StoryGraph.Json.Error
import StoryGraph.Json.Value

namespace StoryGraph.Json

open Numeric
open Text (byteCount)

/-- A result and what follows it, or a fault. -/
abbrev Step (α : Type) := Except Fault (α × List Char)

def Step.andThen {α β : Type} (step : Step α) (next : α → List Char → Step β) : Step β :=
  match step with
  | .ok (a, rest) => next a rest
  | .error fault => .error fault

def isBlank (c : Char) : Bool := c == ' ' || c == '\n' || c == '\t' || c == '\r'

def skipBlanks (cs : List Char) : List Char := cs.dropWhile isBlank

def readKeyword {α : Type} (value : α) : List Char → List Char → Step α
  | [], cs => .ok (value, cs)
  | _ :: _, [] => .error ⟨.endOfValue, [], 0⟩
  | k :: ks, c :: cs =>
    if c = k then readKeyword value ks cs else .error ⟨.expectedIdentifier, c :: cs, 1⟩

def readHex (cs : List Char) : Step Nat :=
  match (cs.take 4).mapM hexValue? with
  | some [a, b, c, d] => .ok (((a * 16 + b) * 16 + c) * 16 + d, cs.drop 4)
  | _ => .error ⟨if 4 ≤ byteCount (cs.take 4) then .invalidEscape else .endOfString, cs, 4⟩

def readPairMark : List Char → Except Fault (List Char)
  | [] => .error ⟨.endOfString, [], 0⟩
  | '\\' :: [] => .error ⟨.endOfString, [], 0⟩
  | '\\' :: 'u' :: cs => .ok cs
  | '\\' :: cs => .error ⟨.unexpectedEndOfEscape, cs, 1⟩
  | cs => .error ⟨.unexpectedEndOfEscape, cs, 1⟩

/-- The character of a `\u` escape. Surrogates count only as a pair, high before low. -/
def readUnicode (cs : List Char) : Step Char :=
  (readHex cs).andThen fun high rest ↦
    if 0xDC00 ≤ high ∧ high ≤ 0xDFFF then .error ⟨.loneSurrogate, cs, 4⟩
    else if high < 0xD800 ∨ 0xDBFF < high then .ok (Char.ofNat high, rest)
    else
      match readPairMark rest with
      | .error fault => .error fault
      | .ok cs =>
        (readHex cs).andThen fun low rest ↦
          if low < 0xDC00 ∨ 0xDFFF < low then .error ⟨.loneSurrogate, cs, 4⟩
          else .ok (Char.ofNat (0x10000 + (high - 0xD800) * 0x400 + (low - 0xDC00)), rest)

def readEscape : List Char → Step Char
  | [] => .error ⟨.endOfString, [], 0⟩
  | '"' :: cs => .ok ('"', cs)
  | '\\' :: cs => .ok ('\\', cs)
  | '/' :: cs => .ok ('/', cs)
  | 'b' :: cs => .ok ('\x08', cs)
  | 'f' :: cs => .ok ('\x0c', cs)
  | 'n' :: cs => .ok ('\n', cs)
  | 'r' :: cs => .ok ('\r', cs)
  | 't' :: cs => .ok ('\t', cs)
  | 'u' :: cs => readUnicode cs
  | c :: cs => .error ⟨.invalidEscape, c :: cs, 1⟩

def readChar? : List Char → Step (Option Char)
  | [] => .error ⟨.endOfString, [], 0⟩
  | '"' :: cs => .ok (none, cs)
  | '\\' :: cs => (readEscape cs).andThen fun c rest ↦ .ok (some c, rest)
  | c :: cs =>
    if c.toNat < 0x20 then .error ⟨.controlCharacter, c :: cs, 1⟩ else .ok (some c, cs)

/-- The characters up to the closing quote, after those in `done`, which are in reverse. The first
list bounds the recursion: it is shortened at every round, and every round takes a character or
more. -/
def readChars : List Char → List Char → List Char → Step String
  | [], _, cs => .error ⟨.endOfString, cs, 0⟩
  | _ :: bound, done, cs =>
    match readChar? cs with
    | .error fault => .error fault
    | .ok (none, rest) => .ok (String.ofList done.reverse, rest)
    | .ok (some c, rest) => readChars bound (c :: done) rest

def readString (cs : List Char) : Step String := readChars cs [] cs

def readWhole : List Char → Step (List Char)
  | [] => .error ⟨.endOfValue, [], 0⟩
  | '0' :: cs =>
    if (cs.head?.map isDigit).getD false then .error ⟨.invalidNumber, cs, 1⟩ else .ok (['0'], cs)
  | c :: cs => if isDigit c then .ok (spanDigits (c :: cs)) else .error ⟨.invalidNumber, c :: cs, 1⟩

def readFraction : List Char → Step (Option (List Char))
  | '.' :: cs =>
    match spanDigits cs with
    | ([], []) => .error ⟨.endOfValue, [], 0⟩
    | ([], rest) => .error ⟨.invalidNumber, rest, 1⟩
    | (digits, rest) => .ok (some digits, rest)
  | cs => .ok (none, cs)

def maxPower : Nat := 2147483647

/-- What follows the digit with which a power of ten grows beyond 32 bits, if it does. -/
def powerOverflow? : Nat → List Char → Option (List Char)
  | _, [] => none
  | n, c :: cs =>
    if isDigit c then
      let n := 10 * n + digitValue c
      if maxPower < n then some cs else powerOverflow? n cs
    else none

/-- The power of ten after an exponent mark, if there is a mark. A power that is positive and grows
beyond 32 bits is refused unless it multiplies zero. -/
def readPower (isZero : Bool) : List Char → Step (Option Int)
  | [] => .ok (none, [])
  | c :: cs =>
    if c = 'e' ∨ c = 'E' then
      let (negative, cs) :=
        match cs with
        | '+' :: cs => (false, cs)
        | '-' :: cs => (true, cs)
        | cs => (false, cs)
      match spanDigits cs with
      | ([], []) => .error ⟨.endOfValue, [], 0⟩
      | ([], rest) => .error ⟨.invalidNumber, rest, 1⟩
      | (digits, rest) =>
        match powerOverflow? 0 cs with
        | some after =>
          if isZero || negative then .ok (some (-maxPower), rest)
          else .error ⟨.numberOutOfRange, after, 0⟩
        | none =>
          let power : Int := value digits
          .ok (some (if negative then -power else power), rest)
    else .ok (none, c :: cs)

/-- An integer where it fits 64 bits, else the nearest binary64 number. -/
def ofWhole (negative : Bool) (n : Nat) : Option Number :=
  if negative then
    if 0 < n ∧ n ≤ 0x8000000000000000 then some (.integer (-n))
    else (Binary64.ofDecimal? true n 0).map .binary
  else if n ≤ greatestWord then some (.integer n)
  else (Binary64.ofDecimal? false n 0).map .binary

def ofParts (negative : Bool) (coefficient : Nat) : Option Nat → Option Int → Option Number
  | none, none => ofWhole negative coefficient
  | places, power =>
    (Binary64.ofDecimal? negative coefficient (power.getD 0 - places.getD 0)).map .binary

def readNumber (negative : Bool) (cs : List Char) : Step Number :=
  (readWhole cs).andThen fun whole cs ↦
    (readFraction cs).andThen fun fraction cs ↦
      let coefficient := value (whole ++ fraction.getD [])
      (readPower (coefficient == 0) cs).andThen fun power cs ↦
        match ofParts negative coefficient (fraction.map List.length) power with
        | some n => .ok (n, cs)
        | none => .error ⟨.numberOutOfRange, cs, 0⟩

end StoryGraph.Json
