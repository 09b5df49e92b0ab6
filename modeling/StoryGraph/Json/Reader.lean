import StoryGraph.Json.Form
import StoryGraph.Json.Skip

namespace StoryGraph.Json

open Numeric

def readItems {α : Type} (item : List Char → Step α) (close : Char) (atEnd other : Cause) :
    List Char → List α → List Char → Step (List α)
  | [], _, cs => .error ⟨atEnd, cs, 0⟩
  | _ :: bound, done, cs =>
    match item cs with
    | .error fault => .error fault
    | .ok (a, rest) =>
      match skipBlanks rest with
      | [] => .error ⟨atEnd, [], 0⟩
      | c :: rest =>
        if c = close then .ok ((a :: done).reverse, rest)
        else if c = ',' then
          let rest := skipBlanks rest
          if rest.head? = some close then .error ⟨.trailingComma, rest, 1⟩
          else readItems item close atEnd other bound (a :: done) rest
        else .error ⟨other, c :: rest, 1⟩

def readBracketed {α : Type} (item : List Char → Step α) (close : Char) (atEnd other : Cause)
    (cs : List Char) : Step (List α) :=
  match skipBlanks cs with
  | [] => .error ⟨atEnd, [], 0⟩
  | c :: rest =>
    if c = close then .ok ([], rest)
    else readItems item close atEnd other (c :: rest) [] (c :: rest)

/-- A name, a colon and a value, for which there may be a reader under that name. A value that has
none is passed over and counts as null. -/
def readMember (readValue? : String → Option (List Char → Step Json)) :
    List Char → Step (String × Json)
  | [] => .error ⟨.endOfValue, [], 0⟩
  | '"' :: cs =>
    (readString cs).andThen fun name rest ↦
      match skipBlanks rest with
      | [] => .error ⟨.endOfObject, [], 0⟩
      | ':' :: rest =>
        match readValue? name with
        | some readValue => (readValue rest).andThen fun value rest ↦ .ok ((name, value), rest)
        | none => (skipValue rest).andThen fun _ rest ↦ .ok ((name, .null), rest)
      | rest => .error ⟨.expectedColon, rest, 1⟩
  | cs => .error ⟨.keyNotString, cs, 1⟩

/-- A value of the given form with at most `depth` brackets open inside each other. -/
def readValue (depth : Nat) (form : Form) (cs : List Char) : Step Json :=
  match skipBlanks cs with
  | [] => .error ⟨.endOfValue, [], 0⟩
  | 'n' :: cs => readKeyword .null ['u', 'l', 'l'] cs
  | 't' :: cs => readKeyword (.bool true) ['r', 'u', 'e'] cs
  | 'f' :: cs => readKeyword (.bool false) ['a', 'l', 's', 'e'] cs
  | '"' :: cs => (readString cs).andThen fun s rest ↦ .ok (.string s, rest)
  | '-' :: cs => (readNumber true cs).andThen fun n rest ↦ .ok (.number n, rest)
  | '[' :: cs =>
    match depth with
    | 0 => .error ⟨.recursionLimit, '[' :: cs, 1⟩
    | depth + 1 =>
      (readBracketed (readValue depth form.item) ']' .endOfList .expectedListEnd cs).andThen
        fun items rest ↦ .ok (.array items, rest)
  | '{' :: cs =>
    match depth with
    | 0 => .error ⟨.recursionLimit, '{' :: cs, 1⟩
    | depth + 1 =>
      (readBracketed (readMember fun name ↦ (form.member? name).map (readValue depth)) '}'
        .endOfObject .expectedObjectEnd cs).andThen fun members rest ↦ .ok (.object members, rest)
  | c :: cs =>
    if isDigit c then
      (readNumber false (c :: cs)).andThen fun n rest ↦ .ok (.number n, rest)
    else .error ⟨.expectedValue, c :: cs, 1⟩

def maxDepth : Nat := 127

def readText (form : Form) (cs : List Char) : Except Fault Json :=
  match readValue maxDepth form cs with
  | .error fault => .error fault
  | .ok (value, rest) =>
    match skipBlanks rest with
    | [] => .ok value
    | rest => .error ⟨.trailingCharacters, rest, 1⟩

def parseAs (form : Form) (text : String) : Except SyntaxError Json :=
  match readText form text.toList with
  | .ok value => .ok value
  | .error fault => .error (fault.locate text.toList)

def parse (text : String) : Except SyntaxError Json := parseAs .whole text

end StoryGraph.Json
