import StoryGraph.Graph.Stats
import StoryGraph.Json.Decode

namespace StoryGraph

open Json (Members)

namespace Label

def toJson : Label → Json
  | cover => .object [("kind", .string "cover")]
  | ending => .object [("kind", .string "ending")]
  | scene id => .object [("kind", .string "scene"), ("id", .string id)]

def form : Json.Form := .record ["kind", "id"]

def ofMembers? (isNothing : Json → Bool) (members : Members) : Option Label := do
  match ← members.field "kind" (Json.tag? isNothing) with
  | "cover" =>
    let _ ← members.optional "id" fun _ ↦ (none : Option Unit)
    return cover
  | "ending" =>
    let _ ← members.optional "id" fun _ ↦ (none : Option Unit)
    return ending
  | "scene" => return scene (← members.field "id" Json.string?)
  | _ => none

def ofJson? (value : Json) : Option Label := value.members?.bind (ofMembers? Json.isNull)

/-- A label inside a continuation. An empty object under the word of its tag counts as null. -/
def ofTarget? (value : Json) : Option Label := value.members?.bind (ofMembers? Json.isNothing)

end Label

namespace Line

def toJson (line : Line) : Json :=
  .object [("speaker", .ofText? line.speaker), ("text", .string line.text)]

def form : Json.Form := .record ["speaker", "text"]

def ofMembers? (members : Members) : Option Line := do
  return ⟨← members.optional "speaker" Json.string?, ← members.field "text" Json.string?⟩

def ofJson? (value : Json) : Option Line := value.members?.bind ofMembers?

end Line

namespace CoverCard

def fields (card : CoverCard) : Members :=
  [("image", .ofText? card.image), ("title", .string card.title),
    ("subtitle", .string card.subtitle), ("description", .string card.description),
    ("cta", .string card.cta)]

def ofMembers? (members : Members) : Option CoverCard := do
  return ⟨← members.optional "image" Json.string?, ← members.field "title" Json.string?,
    ← members.field "subtitle" Json.string?, ← members.field "description" Json.string?,
    ← members.field "cta" Json.string?⟩

end CoverCard

namespace EndingCard

def fields (card : EndingCard) : Members :=
  [("image", .ofText? card.image), ("title", .string card.title),
    ("message", .string card.message), ("cta", .string card.cta)]

def ofMembers? (members : Members) : Option EndingCard := do
  return ⟨← members.optional "image" Json.string?, ← members.field "title" Json.string?,
    ← members.field "message" Json.string?, ← members.field "cta" Json.string?⟩

end EndingCard

namespace SceneCard

def fields (card : SceneCard) : Members :=
  [("background", .ofText? card.background), ("accent", .ofText? card.accent),
    ("lines", .array (card.lines.map Line.toJson))]

def ofMembers? (members : Members) : Option SceneCard := do
  return ⟨← members.optional "background" Json.string?, ← members.optional "accent" Json.string?,
    ← members.field "lines" (Json.list? Line.ofJson?)⟩

end SceneCard

namespace Content

def toJson : Content → Json
  | cover card => .object (("type", .string "cover") :: card.fields)
  | scene card => .object (("type", .string "scene") :: card.fields)
  | ending card => .object (("type", .string "ending") :: card.fields)

def ofMembers? (members : Members) : Option Content := do
  match ← members.field "type" Json.string? with
  | "cover" => return cover (← CoverCard.ofMembers? members)
  | "scene" => return scene (← SceneCard.ofMembers? members)
  | "ending" => return ending (← EndingCard.ofMembers? members)
  | _ => none

def ofJson? (value : Json) : Option Content := value.members?.bind ofMembers?

end Content

namespace Branch

def toJson (branch : Branch) : Json :=
  .object [("index", .nat branch.index), ("caption", .string branch.caption),
    ("target", branch.target.toJson)]

def ofMembers? (members : Members) : Option Branch := do
  return ⟨← members.field "index" Json.nat?, ← members.field "caption" Json.string?,
    ← members.field "target" Label.ofTarget?⟩

def ofJson? (value : Json) : Option Branch := value.members?.bind ofMembers?

end Branch

namespace Continuation

def toJson : Continuation → Json
  | afterLastLine target =>
    .object [("type", .string "after_last_line"), ("target", target.toJson)]
  | proceed caption target =>
    .object [("type", .string "continue"), ("caption", .string caption), ("target", target.toJson)]
  | menu branches =>
    .object [("type", .string "menu"), ("choices", .array (branches.map Branch.toJson))]
  | terminal => .object [("type", .string "terminal")]

def ofMembers? (members : Members) : Option Continuation := do
  match ← members.field "type" Json.string? with
  | "after_last_line" => return afterLastLine (← members.field "target" Label.ofTarget?)
  | "continue" =>
    return proceed (← members.field "caption" Json.string?)
      (← members.field "target" Label.ofTarget?)
  | "menu" => return menu (← members.field "choices" (Json.list? Branch.ofJson?))
  | "terminal" => return terminal
  | _ => none

def ofJson? (value : Json) : Option Continuation := value.members?.bind ofMembers?

end Continuation

namespace Node

def toJson (node : Node) : Json :=
  .object [("id", node.label.toJson), ("content", node.content.toJson),
    ("continuation", node.continuation.toJson)]

def form : Json.Form :=
  .object [("id", Label.form), ("content", .whole), ("continuation", .whole)]

def ofMembers? (members : Members) : Option Node := do
  return ⟨← members.field "id" Label.ofJson?, ← members.field "content" Content.ofJson?,
    ← members.field "continuation" Continuation.ofJson?⟩

def ofJson? (value : Json) : Option Node := value.members?.bind ofMembers?

end Node

namespace Graph

def toJson (graph : Graph) : Json :=
  .object [("labels", .array (graph.nodes.map Node.toJson)),
    ("start", (graph.start.map Label.toJson).getD .null)]

def form : Json.Form := .object [("labels", .list Node.form), ("start", Label.form)]

def ofMembers? (members : Members) : Option Graph := do
  return ⟨← members.field "labels" (Json.list? Node.ofJson?),
    ← members.optional "start" Label.ofJson?⟩

def ofJson? (value : Json) : Option Graph := value.members?.bind ofMembers?

end Graph

namespace EdgeKind

def toJson : EdgeKind → Json
  | afterLastLine => .string "after_last_line"
  | proceed => .string "continue"
  | choice index => .object [("choice", .object [("index", .nat index)])]

def form : Json.Form :=
  .object [("after_last_line", .whole), ("continue", .whole), ("choice", .record ["index"])]

def ofJson? : Json → Option EdgeKind
  | .object [("choice", value)] => do
    return choice (← (← value.members?).field "index" Json.nat?)
  | value =>
    match Json.tag? Json.isNull value with
    | some "after_last_line" => some afterLastLine
    | some "continue" => some proceed
    | _ => none

end EdgeKind

namespace Edge

def toJson (edge : Edge) : Json :=
  .object [("from", edge.source.toJson), ("to", edge.target.toJson), ("kind", edge.kind.toJson),
    ("caption", .ofText? edge.caption)]

def form : Json.Form :=
  .object [("from", Label.form), ("to", Label.form), ("kind", EdgeKind.form), ("caption", .whole)]

def ofMembers? (members : Members) : Option Edge := do
  return ⟨← members.field "from" Label.ofJson?, ← members.field "to" Label.ofJson?,
    ← members.field "kind" EdgeKind.ofJson?, ← members.optional "caption" Json.string?⟩

def ofJson? (value : Json) : Option Edge := value.members?.bind ofMembers?

end Edge

namespace Stats

def toJson (stats : Stats) : Json :=
  .object [("total_labels", .nat stats.totalLabels), ("scene_labels", .nat stats.sceneLabels),
    ("line_count", .nat stats.lineCount), ("choice_count", .nat stats.choiceCount),
    ("edge_count", .nat stats.edgeCount), ("reachable_labels", .nat stats.reachableLabels),
    ("unreachable_labels", .nat stats.unreachableLabels)]

def form : Json.Form :=
  .record ["total_labels", "scene_labels", "line_count", "choice_count", "edge_count",
    "reachable_labels", "unreachable_labels"]

def ofMembers? (members : Members) : Option Stats := do
  return ⟨← members.field "total_labels" Json.nat?, ← members.field "scene_labels" Json.nat?,
    ← members.field "line_count" Json.nat?, ← members.field "choice_count" Json.nat?,
    ← members.field "edge_count" Json.nat?, ← members.field "reachable_labels" Json.nat?,
    ← members.field "unreachable_labels" Json.nat?⟩

def ofJson? (value : Json) : Option Stats := value.members?.bind ofMembers?

end Stats

end StoryGraph
