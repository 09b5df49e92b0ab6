import StoryGraph.Numeric.Notation

namespace StoryGraph

/-- A number is an integer of 64 bits or, where it has a fraction, an exponent or too many digits, a
binary64 number. Negative zero is a binary64 number. -/
inductive Json.Number where
  | integer (n : Int)
  | binary (x : Numeric.Binary64)
  deriving DecidableEq, Repr, Inhabited

inductive Json where
  | null
  | bool (b : Bool)
  | number (n : Json.Number)
  | string (s : String)
  | array (items : List Json)
  | object (members : List (String × Json))
  deriving Repr, Inhabited

namespace Json

namespace Number

def text : Number → String
  | integer n => toString n
  | binary x => x.compact

def isZero : Number → Bool
  | integer n => n == 0
  | binary x => x.isZero

end Number

abbrev Members := List (String × Json)

def nat (n : Nat) : Json := number (.integer n)

def ofText? : Option String → Json
  | some s => string s
  | none => null

def isNull : Json → Bool
  | null => true
  | _ => false

def isNothing : Json → Bool
  | null | object [] => true
  | _ => false

def members? : Json → Option Members
  | object members => some members
  | _ => none

/-- The value of a name; the last one where the name is repeated. -/
def Members.get? (members : Members) (name : String) : Option Json :=
  (members.reverse.find? fun m ↦ m.1 == name).map Prod.snd

end Json

end StoryGraph
