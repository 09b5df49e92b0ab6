import StoryGraph.Numeric.Notation

namespace StoryGraph.Toml

inductive Float where
  | finite (x : Numeric.Binary64)
  | infinite (negative : Bool)
  | notANumber
  deriving DecidableEq, Repr, Inhabited

def Float.text : Float → String
  | finite x => x.plain
  | infinite true => "-inf"
  | infinite false => "inf"
  | notANumber => "NaN"

/-- How a table came to be. -/
inductive Origin where
  | inline
  | header
  | implied
  | dotted
  deriving DecidableEq, Repr, Inhabited

structure Region where
  start : List Char
  stop : List Char
  deriving DecidableEq, Repr, Inhabited

def Region.upTo (first last : Region) : Region := ⟨first.start, last.stop⟩

/-- Something that stands in a text. A table that came to be by a dotted key or by the header of a
table inside it stands where its key does. -/
structure Placed (α : Type) where
  region : Region
  value : α
  deriving DecidableEq, Repr, Inhabited

inductive Value where
  | string (s : String)
  | integer (n : Int)
  | float (x : Float)
  | boolean (b : Bool)
  | moment
  | array (items : List (Placed Value))
  | table (origin : Origin) (entries : List (String × Placed Value))
  | tables (elements : List (Placed (List (String × Placed Value))))
  deriving Repr, Inhabited

abbrev Entries := List (String × Placed Value)

namespace Entries

def get? (entries : Entries) (key : String) : Option (Placed Value) :=
  (entries.find? fun entry ↦ entry.1 == key).map Prod.snd

def replace (entries : Entries) (key : String) (value : Placed Value) : Entries :=
  entries.map fun entry ↦ if entry.1 == key then (key, value) else entry

def erase (entries : Entries) (key : String) : Entries :=
  entries.filter fun entry ↦ entry.1 != key

end Entries

end StoryGraph.Toml
