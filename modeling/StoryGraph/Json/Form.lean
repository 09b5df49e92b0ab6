namespace StoryGraph.Json

/-- What a reader is to look for in a text. The values under other names than those of the fields
are passed over: they have to be JSON, but they need not be values that a program could hold. -/
inductive Form where
  | whole
  | list (item : Form)
  | object (fields : List (String × Form))
  deriving Repr, Inhabited

namespace Form

def record (names : List String) : Form := object (names.map fun name ↦ (name, whole))

def item : Form → Form
  | list form => form
  | whole | object _ => whole

def member? : Form → String → Option Form
  | object fields, name => (fields.find? fun field ↦ field.1 == name).map Prod.snd
  | whole, _ | list _, _ => some whole

end Form

end StoryGraph.Json
