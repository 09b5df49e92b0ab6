import StoryGraph.Graph.Codec
import StoryGraph.Script.Basic

namespace StoryGraph.Script

open Json (Members)

namespace Choice

def toJson (choice : Choice) : Json :=
  .object [("caption", .string choice.caption), ("next", .ofText? choice.next)]

def form : Json.Form := .record ["caption", "next"]

def ofMembers? (members : Members) : Option Choice := do
  return ⟨← members.field "caption" Json.string?, ← members.optional "next" Json.string?⟩

def ofJson? (value : Json) : Option Choice := value.members?.bind ofMembers?

end Choice

namespace Scene

def toJson (scene : Scene) : Json :=
  .object [("id", .string scene.id), ("background", .ofText? scene.background),
    ("accent", .ofText? scene.accent), ("lines", .array (scene.lines.map Line.toJson)),
    ("choices", .array (scene.choices.map Choice.toJson)), ("next", .ofText? scene.next),
    ("fallback", .ofText? scene.fallback)]

def form : Json.Form :=
  .object [("id", .whole), ("background", .whole), ("accent", .whole), ("lines", .list Line.form),
    ("choices", .list Choice.form), ("next", .whole), ("fallback", .whole)]

def ofMembers? (members : Members) : Option Scene := do
  return ⟨← members.field "id" Json.string?, ← members.optional "background" Json.string?,
    ← members.optional "accent" Json.string?, ← members.field "lines" (Json.list? Line.ofJson?),
    ← members.field "choices" (Json.list? Choice.ofJson?), ← members.optional "next" Json.string?,
    ← members.optional "fallback" Json.string?⟩

def ofJson? (value : Json) : Option Scene := value.members?.bind ofMembers?

end Scene

end StoryGraph.Script
