import StoryGraph.Json.Form
import StoryGraph.Json.Value

namespace StoryGraph.Json

variable {α : Type}

def string? : Json → Option String
  | string s => some s
  | _ => none

def nat? : Json → Option Nat
  | number (.integer n) => if 0 ≤ n then some n.toNat else none
  | _ => none

def list? (decode : Json → Option α) : Json → Option (List α)
  | array items => items.mapM decode
  | _ => none

/-- The word of a tag. It may also be written as the name of a single member, where what stands
under that name is nothing. -/
def tag? (isNothing : Json → Bool) : Json → Option String
  | string word => some word
  | object [(word, value)] => if isNothing value then some word else none
  | _ => none

namespace Members

variable (members : Members) (name : String) (decode : Json → Option α)

def all : List Json := (members.filter fun m ↦ m.1 == name).map Prod.snd

def field : Option α :=
  match members.all name with
  | [value] => decode value
  | _ => none

def optional : Option (Option α) :=
  match members.all name with
  | [] | [.null] => some none
  | [value] => (decode value).map some
  | _ => none

def fieldD (standing : α) : Option α :=
  match members.all name with
  | [] => some standing
  | [value] => decode value
  | _ => none

end Members

@[simp] theorem nat?_nat (n : Nat) : (nat n).nat? = some n := by
  simp [nat, nat?]

@[simp] theorem string?_string (s : String) : (string s).string? = some s := rfl

end StoryGraph.Json
