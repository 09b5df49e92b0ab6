import StoryGraph.Toml.Value

namespace StoryGraph.Toml

open Numeric

def isBlank (c : Char) : Bool := c == ' ' || c == '\t'

def skipBlanks (cs : List Char) : List Char := cs.dropWhile isBlank

def isText (c : Char) : Bool := c == '\t' || (0x20 ≤ c.toNat && c.toNat != 0x7F)

def newline? : List Char → Option (List Char)
  | '\n' :: cs => some cs
  | '\r' :: '\n' :: cs => some cs
  | _ => none

def skipComment : List Char → List Char
  | '#' :: cs => cs.dropWhile isText
  | cs => cs

def lineEnd? (cs : List Char) : Option (List Char) :=
  match skipComment (skipBlanks cs) with
  | [] => some []
  | cs => newline? cs

def skipLines : List Char → List Char → List Char
  | [], cs => cs
  | _ :: bound, cs =>
    let cs := skipBlanks cs
    match newline? (skipComment cs) with
    | some rest => skipLines bound rest
    | none => cs

def unicode? (digits : Nat) (cs : List Char) : Option (Char × List Char) := do
  let values ← (cs.take digits).mapM hexValue?
  if values.length < digits then none
  else
    let code := values.foldl (fun n d ↦ 16 * n + d) 0
    if code.isValidChar then some (Char.ofNat code, cs.drop digits) else none

def escape? : List Char → Option (Char × List Char)
  | '"' :: cs => some ('"', cs)
  | '\\' :: cs => some ('\\', cs)
  | 'b' :: cs => some ('\x08', cs)
  | 'f' :: cs => some ('\x0c', cs)
  | 'n' :: cs => some ('\n', cs)
  | 'r' :: cs => some ('\r', cs)
  | 't' :: cs => some ('\t', cs)
  | 'u' :: cs => unicode? 4 cs
  | 'U' :: cs => unicode? 8 cs
  | _ => none

def basic? : List Char → List Char → List Char → Option (String × List Char)
  | [], _, _ => none
  | _ :: bound, done, cs =>
    match cs with
    | '"' :: cs => some (String.ofList done.reverse, cs)
    | '\\' :: cs => do
      let (c, rest) ← escape? cs
      basic? bound (c :: done) rest
    | c :: cs => if isText c then basic? bound (c :: done) cs else none
    | [] => none

def literal? (cs : List Char) : Option (String × List Char) :=
  match cs.span fun c ↦ isText c && c != '\x27' with
  | (text, '\x27' :: rest) => some (String.ofList text, rest)
  | _ => none

/-- The quotes at the head of a text: three close a string of several lines, and up to two more
before them belong to it. Fewer than three are text. -/
def closing? (quote : Char) (cs : List Char) : Option (List Char × List Char) :=
  let (quotes, rest) := cs.span (· == quote)
  if quotes.length < 3 then none
  else some (quotes.drop 3 |>.take 2, quotes.drop 5 ++ rest)

/-- A string of several lines up to its closing quotes, after the characters in `done`, which are in
reverse. A line break counts as one character, and an escaped one takes the blanks after it away. -/
def multiline? (quote : Char) (escapes : Bool) :
    List Char → List Char → List Char → Option (String × List Char)
  | [], _, _ => none
  | _ :: bound, done, cs =>
    match closing? quote cs with
    | some (last, rest) => some (String.ofList (done.reverse ++ last), rest)
    | none =>
      match newline? cs with
      | some rest => multiline? quote escapes bound ('\n' :: done) rest
      | none =>
        match cs with
        | [] => none
        | c :: cs =>
          if escapes && c == '\\' then
            match newline? (skipBlanks cs) with
            | some rest =>
              multiline? quote escapes bound done (skipBreaks rest rest)
            | none => do
              let (c, rest) ← escape? cs
              multiline? quote escapes bound (c :: done) rest
          else if isText c then multiline? quote escapes bound (c :: done) cs
          else none
where
  skipBreaks : List Char → List Char → List Char
    | [], cs => cs
    | _ :: bound, cs =>
      let cs := skipBlanks cs
      match newline? cs with
      | some rest => skipBreaks bound rest
      | none => cs

def block? (quote : Char) (escapes : Bool) (cs : List Char) : Option (String × List Char) :=
  multiline? quote escapes cs [] ((newline? cs).getD cs)

def string? : List Char → Option (String × List Char)
  | '"' :: '"' :: '"' :: cs => block? '"' true cs
  | '"' :: cs => basic? cs [] cs
  | '\x27' :: '\x27' :: '\x27' :: cs => block? '\x27' false cs
  | '\x27' :: cs => literal? cs
  | _ => none

def isBare (c : Char) : Bool :=
  isDigit c || ('a' ≤ c && c ≤ 'z') || ('A' ≤ c && c ≤ 'Z') || c == '-' || c == '_'

def part? : List Char → Option (String × List Char)
  | '"' :: cs => basic? cs [] cs
  | '\x27' :: cs => literal? cs
  | cs =>
    match cs.span isBare with
    | ([], _) => none
    | (part, rest) => some (String.ofList part, rest)

def parts? : List Char → List Char → Option (List (Placed String) × List Char)
  | [], _ => none
  | _ :: bound, cs => do
    let cs := skipBlanks cs
    let (name, rest) ← part? cs
    let part : Placed String := ⟨⟨cs, rest⟩, name⟩
    match skipBlanks rest with
    | '.' :: rest =>
      let (parts, rest) ← parts? bound rest
      return (part :: parts, rest)
    | rest => return ([part], rest)

def grouped? (digit : Char → Bool) (cs : List Char) : Option (List Char × List Char) :=
  match cs with
  | c :: rest => if digit c then some (tail [c] rest) else none
  | [] => none
where
  tail (done : List Char) : List Char → List Char × List Char
    | '_' :: c :: cs => if digit c then tail (c :: done) cs else (done.reverse, '_' :: c :: cs)
    | c :: cs => if digit c then tail (c :: done) cs else (done.reverse, c :: cs)
    | [] => (done.reverse, [])

def sign : List Char → Bool × List Char
  | '-' :: cs => (true, cs)
  | '+' :: cs => (false, cs)
  | cs => (false, cs)

def whole? : List Char → Option (List Char × List Char)
  | '0' :: cs => some (['0'], cs)
  | cs => grouped? isDigit cs

def isOctal (c : Char) : Bool := '0' ≤ c && c ≤ '7'

def isBinary (c : Char) : Bool := c == '0' || c == '1'

def isHex (c : Char) : Bool := (hexValue? c).isSome

def inRange? (n : Int) : Option Int :=
  if -0x8000000000000000 ≤ n ∧ n < 0x8000000000000000 then some n else none

def radix? (base : Nat) (digit : Char → Bool) (cs : List Char) : Option (Value × List Char) := do
  let (digits, rest) ← grouped? digit cs
  let n := digits.foldl (fun n c ↦ base * n + (hexValue? c).getD 0) 0
  return (.integer (← inRange? n), rest)

def integer? : List Char → Option (Value × List Char)
  | '0' :: 'x' :: cs => radix? 16 isHex cs
  | '0' :: 'o' :: cs => radix? 8 isOctal cs
  | '0' :: 'b' :: cs => radix? 2 isBinary cs
  | cs => do
    let (negative, cs) := sign cs
    let (digits, rest) ← whole? cs
    let n : Int := value digits
    return (.integer (← inRange? (if negative then -n else n)), rest)

def fraction? : List Char → Option (List Char × List Char)
  | '.' :: cs => grouped? isDigit cs
  | _ => none

def power? : List Char → Option (Int × List Char)
  | c :: cs =>
    if c = 'e' ∨ c = 'E' then do
      let (negative, cs) := sign cs
      let (digits, rest) ← grouped? isDigit cs
      let n : Int := value digits
      return (if negative then -n else n, rest)
    else none
  | [] => none

/-- A number too large to be finite is refused unless it is negative. -/
def ofParts? (negative : Bool) (digits : List Char) (power : Int) : Option Float :=
  match Binary64.ofDecimal? negative (value digits) power with
  | some x => some (.finite x)
  | none => if negative then some (.infinite true) else none

def float? (cs : List Char) : Option (Value × List Char) := do
  let (negative, cs) := sign cs
  match cs with
  | 'i' :: 'n' :: 'f' :: rest => return (.float (.infinite negative), rest)
  | 'n' :: 'a' :: 'n' :: rest => return (.float .notANumber, rest)
  | cs =>
    let (digits, rest) ← whole? cs
    match fraction? rest with
    | some (fraction, rest) =>
      let (power, rest) := (power? rest).getD (0, rest)
      return (.float (← ofParts? negative (digits ++ fraction) (power - fraction.length)), rest)
    | none =>
      let (power, rest) ← power? rest
      return (.float (← ofParts? negative digits power), rest)

def fixed? (digits low high : Nat) (cs : List Char) : Option (Nat × List Char) :=
  let text := cs.take digits
  let n := value text
  if text.length = digits ∧ text.all isDigit ∧ low ≤ n ∧ n ≤ high then some (n, cs.drop digits)
  else none

def after? (c : Char) : List Char → Option (List Char)
  | d :: cs => if d = c then some cs else none
  | [] => none

def daysIn (year month : Nat) : Nat :=
  if month = 2 then
    if year % 4 = 0 ∧ (year % 100 ≠ 0 ∨ year % 400 = 0) then 29 else 28
  else if month ∈ [4, 6, 9, 11] then 30
  else 31

def date? (cs : List Char) : Option (List Char) := do
  let (year, cs) ← fixed? 4 0 9999 cs
  let (month, cs) ← fixed? 2 1 12 (← after? '-' cs)
  let (_, cs) ← fixed? 2 1 (daysIn year month) (← after? '-' cs)
  return cs

def time? (cs : List Char) : Option (List Char) := do
  let (_, cs) ← fixed? 2 0 23 cs
  let (_, cs) ← fixed? 2 0 59 (← after? ':' cs)
  let (_, cs) ← fixed? 2 0 60 (← after? ':' cs)
  match cs with
  | '.' :: rest =>
    match spanDigits rest with
    | ([], _) => return cs
    | (_, rest) => return rest
  | cs => return cs

def offset? (cs : List Char) : Option (List Char) :=
  match cs with
  | [] => none
  | c :: cs =>
    if c = 'Z' ∨ c = 'z' then some cs
    else if c = '+' ∨ c = '-' then do
      let (_, cs) ← fixed? 2 0 23 cs
      let (_, cs) ← fixed? 2 0 59 (← after? ':' cs)
      return cs
    else none

def moment? (cs : List Char) : Option (Value × List Char) :=
  match date? cs with
  | none => (time? cs).map fun rest ↦ (.moment, rest)
  | some rest =>
    let time := match rest with
      | c :: cs => if c = 'T' ∨ c = 't' ∨ c = ' ' then time? cs else none
      | [] => none
    match time with
    | some after => some (.moment, (offset? after).getD after)
    | none => some (.moment, rest)

def word? (cs : List Char) : Option (Value × List Char) :=
  match cs with
  | 't' :: 'r' :: 'u' :: 'e' :: rest => some (.boolean true, rest)
  | 'f' :: 'a' :: 'l' :: 's' :: 'e' :: rest => some (.boolean false, rest)
  | '"' :: _ | '\x27' :: _ => (string? cs).map fun (s, rest) ↦ (.string s, rest)
  | cs => (moment? cs).or ((float? cs).or (integer? cs))

end StoryGraph.Toml
