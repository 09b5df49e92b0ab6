import StoryGraph.Json.Lexeme

namespace StoryGraph.Json

open Numeric

def skipEscape (cs : List Char) : Step Unit :=
  match cs with
  | 'u' :: rest => (readHex rest).andThen fun _ rest ↦ .ok ((), rest)
  | cs => (readEscape cs).andThen fun _ rest ↦ .ok ((), rest)

def skipString : List Char → List Char → Step Unit
  | [], cs => .error ⟨.endOfString, cs, 0⟩
  | _ :: bound, cs =>
    match cs with
    | [] => .error ⟨.endOfString, [], 0⟩
    | '"' :: cs => .ok ((), cs)
    | '\\' :: cs => (skipEscape cs).andThen fun _ rest ↦ skipString bound rest
    | c :: cs =>
      if c.toNat < 0x20 then .error ⟨.controlCharacter, c :: cs, 1⟩ else skipString bound cs

def skipNumber (cs : List Char) : Step Unit :=
  (readWhole cs).andThen fun _ cs ↦
    (readFraction cs).andThen fun _ cs ↦ (readPower true cs).andThen fun _ cs ↦ .ok ((), cs)

def skipToken (cs : List Char) : Step (Option Char) :=
  match skipBlanks cs with
  | [] => .error ⟨.endOfValue, [], 0⟩
  | 'n' :: cs => readKeyword none ['u', 'l', 'l'] cs
  | 't' :: cs => readKeyword none ['r', 'u', 'e'] cs
  | 'f' :: cs => readKeyword none ['a', 'l', 's', 'e'] cs
  | '"' :: cs => (skipString cs cs).andThen fun _ rest ↦ .ok (none, rest)
  | '-' :: cs => (skipNumber cs).andThen fun _ rest ↦ .ok (none, rest)
  | '[' :: cs => .ok (some ']', cs)
  | '{' :: cs => .ok (some '}', cs)
  | c :: cs =>
    if isDigit c then (skipNumber (c :: cs)).andThen fun _ rest ↦ .ok (none, rest)
    else .error ⟨.expectedValue, c :: cs, 1⟩

/-- Passes over closing brackets and the comma before the next value, where brackets stay open.
`afterValue` says that a value comes before, so that a comma must come between it and another. -/
def skipClosing (afterValue : Bool) : List Char → List Char → Step (List Char)
  | [], cs => .ok ([], cs)
  | close :: opened, cs =>
    match skipBlanks cs with
    | [] => .error ⟨if close = ']' then .endOfList else .endOfObject, [], 0⟩
    | c :: cs =>
      if c = close then skipClosing true opened cs
      else if !afterValue then .ok (close :: opened, c :: cs)
      else if c = ',' then .ok (close :: opened, cs)
      else
        .error ⟨if close = ']' then .expectedListEnd else .expectedObjectEnd, c :: cs, 1⟩

def skipName (cs : List Char) : Step Unit :=
  match skipBlanks cs with
  | [] => .error ⟨.endOfObject, [], 0⟩
  | '"' :: cs =>
    (skipString cs cs).andThen fun _ rest ↦
      match skipBlanks rest with
      | [] => .error ⟨.endOfObject, [], 0⟩
      | ':' :: rest => .ok ((), rest)
      | rest => .error ⟨.expectedColon, rest, 1⟩
  | cs => .error ⟨.keyNotString, cs, 1⟩

def skipValues : List Char → List Char → List Char → Step Unit
  | [], _, cs => .error ⟨.endOfValue, cs, 0⟩
  | _ :: bound, opened, cs =>
    (skipToken cs).andThen fun close rest ↦
      (skipClosing close.isNone (close.toList ++ opened) rest).andThen fun opened rest ↦
        match opened with
        | [] => .ok ((), rest)
        | close :: _ =>
          (if close = '}' then skipName rest else .ok ((), rest)).andThen fun _ rest ↦
            skipValues bound opened rest

def skipValue (cs : List Char) : Step Unit := skipValues cs [] cs

end StoryGraph.Json
