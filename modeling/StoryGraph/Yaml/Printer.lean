import StoryGraph.Json.Value
import StoryGraph.Yaml.Scalar

namespace StoryGraph.Yaml

def inline (indent : Nat) : Json → List Char
  | .null => ['n', 'u', 'l', 'l']
  | .bool b => (toString b).toList
  | .number n => n.text.toList
  | .string s => scalar indent s
  | .array _ => ['[', ']']
  | .object _ => ['{', '}']

def closed (text : List Char) : List Char :=
  if (text.getLast?.map isBreak).getD false then text else text ++ ['\n']

mutual

/-- A value that begins at a column; its further lines begin there too. -/
def block (column : Nat) : Json → List Char
  | .object (member :: members) => field column member ++ fields column members
  | .array (item :: rest) => '-' :: ' ' :: (block (column + 2) item ++ items column rest)
  | value => closed (inline column value)
termination_by structural value => value

def fieldValue (column : Nat) : Json → List Char
  | .object (member :: members) =>
    '\n' :: (spaces (column + 2) ++ field (column + 2) member ++ fields (column + 2) members)
  | .array (item :: rest) =>
    '\n' :: (spaces column ++ '-' :: ' ' :: (block (column + 2) item ++ items column rest))
  | value => ' ' :: closed (inline (column + 2) value)
termination_by structural value => value

def items (column : Nat) : List Json → List Char
  | [] => []
  | item :: rest => spaces column ++ '-' :: ' ' :: (block (column + 2) item ++ items column rest)
termination_by structural items => items

def field (column : Nat) : String × Json → List Char
  | (name, value) => scalar (column + 2) name ++ ':' :: fieldValue column value
termination_by structural member => member

def fields (column : Nat) : List (String × Json) → List Char
  | [] => []
  | member :: members => spaces column ++ field column member ++ fields column members
termination_by structural members => members

end

def print (value : Json) : String := String.ofList (block 0 value)

end StoryGraph.Yaml
