import StoryGraph.Graph.Codec
import StoryGraph.Play.Trace

namespace StoryGraph

open Json (Members)

namespace View

def toJson : View → Json
  | cover title subtitle description cta =>
    .object [("kind", .string "cover"), ("title", .string title), ("subtitle", .string subtitle),
      ("description", .string description), ("cta", .ofText? cta)]
  | line speaker text =>
    .object [("kind", .string "line"), ("speaker", .ofText? speaker), ("text", .string text)]
  | menu options =>
    .object [("kind", .string "menu"), ("options", .array (options.map Json.string))]
  | proceed caption => .object [("kind", .string "continue"), ("caption", .string caption)]
  | ending title message cta =>
    .object [("kind", .string "ending"), ("title", .string title), ("message", .string message),
      ("cta", .string cta)]

def ofMembers? (members : Members) : Option View := do
  match ← members.field "kind" Json.string? with
  | "cover" =>
    return cover (← members.field "title" Json.string?) (← members.field "subtitle" Json.string?)
      (← members.field "description" Json.string?) (← members.optional "cta" Json.string?)
  | "line" =>
    return line (← members.optional "speaker" Json.string?) (← members.field "text" Json.string?)
  | "menu" => return menu (← members.field "options" (Json.list? Json.string?))
  | "continue" => return proceed (← members.field "caption" Json.string?)
  | "ending" =>
    return ending (← members.field "title" Json.string?) (← members.field "message" Json.string?)
      (← members.field "cta" Json.string?)
  | _ => none

def ofJson? (value : Json) : Option View := value.members?.bind ofMembers?

end View

namespace TraceStep

def toJson (step : TraceStep) : Json :=
  .object [("step", .nat step.step), ("label", step.label.toJson), ("view", step.view.toJson)]

def form : Json.Form := .object [("step", .whole), ("label", Label.form), ("view", .whole)]

def ofMembers? (members : Members) : Option TraceStep := do
  return ⟨← members.field "step" Json.nat?, ← members.field "label" Label.ofJson?,
    ← members.field "view" View.ofJson?⟩

def ofJson? (value : Json) : Option TraceStep := value.members?.bind ofMembers?

end TraceStep

namespace Trace

def toJson (trace : Trace) : Json := .object [("steps", .array (trace.steps.map TraceStep.toJson))]

def form : Json.Form := .object [("steps", .list TraceStep.form)]

def ofMembers? (members : Members) : Option Trace := do
  return ⟨← members.field "steps" (Json.list? TraceStep.ofJson?)⟩

def ofJson? (value : Json) : Option Trace := value.members?.bind ofMembers?

end Trace

/-- A trace with the graph that it was taken from. -/
structure TraceEnvelope where
  version : Nat
  schemaVersion : String
  fingerprint : String
  trace : Trace
  deriving DecidableEq, Repr, Inhabited

def TraceEnvelope.toJson (envelope : TraceEnvelope) : Json :=
  .object [("trace_format_version", .nat envelope.version),
    ("script_schema_version", .string envelope.schemaVersion),
    ("graph_fingerprint", .string envelope.fingerprint), ("trace", envelope.trace.toJson)]

end StoryGraph
