import StoryGraph.Json.Value

namespace StoryGraph.Draft.Schema

def text : Json := .object [("type", .array [.string "string", .string "null"])]

def reference (name : String) : Json := .object [("$ref", .string ("#/definitions/" ++ name))]

def optional (name : String) : Json :=
  .object [("anyOf", .array [reference name, .object [("type", .string "null")]])]

def list (name : String) : Json :=
  .object [("default", .array []), ("type", .string "array"), ("items", reference name)]

def object (properties : Json.Members) : Json :=
  .object [("type", .string "object"), ("properties", .object properties)]

def texts (names : List String) : Json := object (names.map (·, text))

def accent : Json :=
  .object [("description", .string "Display color; passed through untouched."),
    ("type", .array [.string "string", .string "null"])]

def scene : Json :=
  object [("accent", accent), ("background", text), ("choices", list "ChoiceRaw"),
    ("dialogue", list "LineRaw"), ("id", text), ("next", text)]

def definitions : Json.Members :=
  [("ChoiceRaw", texts ["label", "next"]),
    ("CoverRaw", texts ["background", "cta", "description", "image", "subtitle", "title"]),
    ("EndingRaw", texts ["cta", "image", "message", "title"]),
    ("LineRaw", texts ["speaker", "text"]),
    ("SceneRaw", scene)]

def description : String :=
  "JSON-facing story document exactly as the authoring surface stored it.\n\n" ++
    "Every field is optional and wrongly-typed values read as absent, so any JSON object " ++
    "deserializes. Use [`ScriptRaw::normalize`] before resolving anything."

def document : Json :=
  .object [("$schema", .string "http://json-schema.org/draft-07/schema#"),
    ("title", .string "ScriptRaw"), ("description", .string description),
    ("type", .string "object"),
    ("properties", .object [("cover", optional "CoverRaw"), ("ending", optional "EndingRaw"),
      ("scenes", list "SceneRaw"), ("script_schema_version", text), ("startScene", text)]),
    ("definitions", .object definitions)]

end StoryGraph.Draft.Schema
