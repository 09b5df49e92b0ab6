import StoryGraph.Json.Value

namespace StoryGraph.Json

open Numeric

/-- How a character stands in a string. Quotes, backslashes and control characters are escaped, the
latter by letter where there is one. -/
def escapeChar (c : Char) : List Char :=
  match c with
  | '"' => ['\\', '"']
  | '\\' => ['\\', '\\']
  | '\x08' => ['\\', 'b']
  | '\x0c' => ['\\', 'f']
  | '\n' => ['\\', 'n']
  | '\r' => ['\\', 'r']
  | '\t' => ['\\', 't']
  | c => if c.toNat < 0x20 then '\\' :: 'u' :: hexPadded 4 c.toNat else [c]

def quoted (s : String) : List Char := '"' :: (s.toList.flatMap escapeChar ++ ['"'])

structure Layout where
  lineBreak : Nat → List Char
  afterColon : List Char

namespace Layout

def compact : Layout := ⟨fun _ ↦ [], []⟩

def indented : Layout := ⟨fun level ↦ '\n' :: List.replicate (2 * level) ' ', [' ']⟩

end Layout

variable (layout : Layout)

mutual

def write (level : Nat) : Json → List Char
  | .null => ['n', 'u', 'l', 'l']
  | .bool true => ['t', 'r', 'u', 'e']
  | .bool false => ['f', 'a', 'l', 's', 'e']
  | .number n => n.text.toList
  | .string s => quoted s
  | .array [] => ['[', ']']
  | .array (item :: items) =>
    '[' :: (layout.lineBreak (level + 1) ++ write (level + 1) item ++
      writeItems (level + 1) items ++ layout.lineBreak level ++ [']'])
  | .object [] => ['{', '}']
  | .object (member :: members) =>
    '{' :: (layout.lineBreak (level + 1) ++ writeMember (level + 1) member ++
      writeMembers (level + 1) members ++ layout.lineBreak level ++ ['}'])
termination_by structural value => value

def writeItems (level : Nat) : List Json → List Char
  | [] => []
  | item :: items => ',' :: (layout.lineBreak level ++ write level item ++ writeItems level items)
termination_by structural items => items

def writeMember (level : Nat) : String × Json → List Char
  | (name, value) => quoted name ++ ':' :: (layout.afterColon ++ write level value)
termination_by structural member => member

def writeMembers (level : Nat) : List (String × Json) → List Char
  | [] => []
  | member :: members =>
    ',' :: (layout.lineBreak level ++ writeMember level member ++ writeMembers level members)
termination_by structural members => members

end

def compact (value : Json) : String := String.ofList (write .compact 0 value)

def pretty (value : Json) : String := String.ofList (write .indented 0 value)

end StoryGraph.Json
