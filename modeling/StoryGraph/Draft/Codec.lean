import StoryGraph.Draft.Reading
import StoryGraph.Json.Decode
import StoryGraph.Json.Printer

namespace StoryGraph.Draft

open Json (Members)

def written (name : String) (text : Option String) : Members :=
  (text.map fun s ↦ (name, Json.string s)).toList

def Cover.toJson (cover : Cover) : Json :=
  .object (written "image" cover.image ++ written "background" cover.background ++
    written "title" cover.title ++ written "subtitle" cover.subtitle ++
    written "description" cover.description ++ written "cta" cover.cta)

def Line.toJson (line : Line) : Json :=
  .object (written "speaker" line.speaker ++ written "text" line.text)

def Choice.toJson (choice : Choice) : Json :=
  .object (written "label" choice.label ++ written "next" choice.next)

def Scene.toJson (scene : Scene) : Json :=
  .object (written "id" scene.id ++ written "background" scene.background ++
    written "accent" scene.accent ++
    [("dialogue", .array (scene.dialogue.map Line.toJson)),
      ("choices", .array (scene.choices.map Choice.toJson))] ++
    written "next" scene.next)

def Ending.toJson (ending : Ending) : Json :=
  .object (written "image" ending.image ++ written "title" ending.title ++
    written "message" ending.message ++ written "cta" ending.cta)

variable (draft : Draft)

def toJson : Json :=
  .object (written "script_schema_version" draft.version ++
    (draft.cover.map fun cover ↦ ("cover", cover.toJson)).toList ++
    [("scenes", .array (draft.scenes.map Scene.toJson))] ++
    (draft.ending.map fun ending ↦ ("ending", ending.toJson)).toList ++
    written "startScene" draft.startScene)

def text : String := draft.toJson.pretty

def fieldNames : List (List String) :=
  [["script_schema_version"], ["cover"], ["scenes"], ["ending"], ["startScene", "start_scene"]]

def form : Json.Form := .record fieldNames.flatten

/-- Reads a draft whose own fields are each written at most once. Inside them the last value under a
name counts, as everywhere in a draft. -/
def decode? (value : Json) : Option Draft :=
  value.members?.bind fun members ↦
    if fieldNames.all fun names ↦ (members.filter fun m ↦ names.contains m.1).length ≤ 1 then
      some (ofMembers members)
    else none

end StoryGraph.Draft
