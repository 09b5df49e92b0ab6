import StoryGraph.Toml.Document
import StoryGraph.Toml.Lexeme

namespace StoryGraph.Toml

def maxDepth : Nat := 79

def path? (cs : List Char) : Option (Path × List Char) := do
  let (parts, rest) ← parts? cs cs
  let last ← parts.getLast?
  if parts.length ≤ maxDepth then some (⟨parts.dropLast, last⟩, rest) else none

variable (one : List Char → Option (Placed Value × List Char))

def items? : List Char → List Char → Option (List (Placed Value) × List Char)
  | [], _ => none
  | _ :: bound, cs =>
    match skipLines cs cs with
    | ']' :: rest => some ([], rest)
    | cs => do
      let (value, rest) ← one cs
      match skipLines rest rest with
      | ']' :: rest => return ([value], rest)
      | ',' :: rest =>
        let (values, rest) ← items? bound rest
        return (value :: values, rest)
      | _ => none

def assignment? (cs : List Char) : Option (Assignment × List Char) := do
  let (path, rest) ← path? cs
  let (value, rest) ← one (skipBlanks (← after? '=' rest))
  return (⟨path, value⟩, rest)

def fields? : List Char → List Char → Option (List Assignment × List Char)
  | [], _ => none
  | _ :: bound, cs => do
    let (assignment, rest) ← assignment? one cs
    match skipBlanks rest with
    | '}' :: rest => return ([assignment], rest)
    | ',' :: rest =>
      let (assignments, rest) ← fields? bound rest
      return (assignment :: assignments, rest)
    | _ => none

/-- A value with at most `depth` brackets open inside each other. -/
def value? (depth : Nat) (cs : List Char) : Option (Placed Value × List Char) :=
  let content : Option (Value × List Char) :=
    match cs, depth with
    | '[' :: _, 0 | '{' :: _, 0 => none
    | '[' :: inner, depth + 1 =>
      (items? (value? depth) inner inner).map fun (items, rest) ↦ (.array items, rest)
    | '{' :: inner, depth + 1 =>
      match skipBlanks inner with
      | '}' :: rest => some (.table .inline [], rest)
      | inner => do
        let (assignments, rest) ← fields? (value? depth) inner inner
        return (← Value.ofAssignments? assignments, rest)
    | cs, _ => word? cs
  content.map fun (value, rest) ↦ (⟨⟨cs, rest⟩, value⟩, rest)

def statement? (cs : List Char) : Option (Statement × List Char) :=
  match cs with
  | '[' :: '[' :: inner => do
    let (path, rest) ← path? inner
    let rest ← after? ']' (← after? ']' rest)
    return (.listHeader ⟨⟨cs, rest⟩, path⟩, ← lineEnd? rest)
  | '[' :: inner => do
    let (path, rest) ← path? inner
    let rest ← after? ']' rest
    return (.header ⟨⟨cs, rest⟩, path⟩, ← lineEnd? rest)
  | cs => do
    let (assignment, rest) ← assignment? (value? maxDepth) cs
    return (.assign assignment, ← lineEnd? rest)

def statements? : List Char → List Statement → List Char → Option (List Statement)
  | [], done, cs => if cs.isEmpty then some done.reverse else none
  | _ :: bound, done, cs =>
    match skipLines cs cs with
    | [] => some done.reverse
    | cs =>
      match lineEnd? cs with
      | some rest => statements? bound done rest
      | none =>
        match statement? cs with
        | some (statement, rest) => statements? bound (statement :: done) rest
        | none => none

def parse? (text : String) : Option Entries :=
  let cs := match text.toList with
    | '\ufeff' :: cs => cs
    | cs => cs
  (statements? cs [] cs).bind Entries.ofStatements?

end StoryGraph.Toml
