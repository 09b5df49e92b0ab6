import StoryGraph.Digest.Sha256
import StoryGraph.Graph.Codec
import StoryGraph.Json.Printer

namespace StoryGraph

structure Envelope where
  version : Nat
  fingerprint : String
  graph : Graph
  deriving DecidableEq, Repr, Inhabited

namespace Graph

def formatVersion : Nat := 1

/-- The digest of the graph's compact JSON form. -/
def fingerprint (graph : Graph) : String := Digest.hex graph.toJson.compact

def envelope (graph : Graph) : Envelope := ⟨formatVersion, graph.fingerprint, graph⟩

end Graph

namespace Envelope

open Json (Members)

def toJson (envelope : Envelope) : Json :=
  .object [("graph_format_version", .nat envelope.version),
    ("fingerprint", .string envelope.fingerprint), ("graph", envelope.graph.toJson)]

def form : Json.Form :=
  .object [("graph_format_version", .whole), ("fingerprint", .whole), ("graph", Graph.form)]

def version? (value : Json) : Option Nat := value.nat?.filter (· < 0x10000)

def ofMembers? (members : Members) : Option Envelope := do
  return ⟨← members.field "graph_format_version" version?,
    ← members.field "fingerprint" Json.string?, ← members.field "graph" Graph.ofJson?⟩

def ofJson? (value : Json) : Option Envelope := value.members?.bind ofMembers?

end Envelope

def Graph.text (graph : Graph) : String := graph.envelope.toJson.pretty

end StoryGraph
