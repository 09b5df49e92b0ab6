import StoryGraph.Graph.Edge
import StoryGraph.Graph.Reachable

namespace StoryGraph

inductive DotStatement where
  | node (position : Nat) (caption : String) (shape color : String)
  | edge (source target : Nat) (style : String) (caption : Option String)
  deriving DecidableEq, Repr, Inhabited

namespace Dot

/-- How a character stands between quotes: a backslash is doubled, so that it begins no escape, and
a quote becomes an apostrophe. -/
def escapeChar : Char → List Char
  | '\\' => ['\\', '\\']
  | '"' => ['\x27']
  | c => [c]

def escape (text : String) : String := String.ofList (text.toList.flatMap escapeChar)

end Dot

namespace DotStatement

def text : DotStatement → String
  | node position caption shape color =>
    s!"    n{position} [label=\"{caption}\" shape={shape} color={color}];\n"
  | edge source target style caption =>
    let label := match caption with
      | some caption => s!" label=\"{caption}\""
      | none => ""
    s!"    n{source} -> n{target} [style={style}{label}];\n"

end DotStatement

namespace Node

def dotCaption (node : Node) : String :=
  match node.content with
  | .cover card => s!"[cover] {Dot.escape card.title}"
  | .ending card => s!"[ending] {Dot.escape card.title}"
  | .scene card => s!"[{Dot.escape node.label.display}] {card.lines.length} lines"

def dotShape (node : Node) : String :=
  match node.continuation with
  | .menu _ => "diamond"
  | .terminal => "ellipse"
  | .afterLastLine _ | .proceed .. => "box"

def dotColor (node : Node) (reachable : List Label) : String :=
  if !reachable.contains node.label then "red"
  else if node.label = .cover then "green"
  else "black"

end Node

def EdgeKind.dotStyle : EdgeKind → String
  | afterLastLine => "solid"
  | proceed => "dashed"
  | choice _ => "bold"

namespace Graph

variable (graph : Graph)

def lastPosition? (label : Label) : Option Nat :=
  (graph.labels.zipIdx.reverse.find? fun (other, _) ↦ other = label).map Prod.snd

def nodeStatements : List DotStatement :=
  let reachable := graph.reachable
  graph.nodes.zipIdx.map fun (node, position) ↦
    .node position node.dotCaption node.dotShape (node.dotColor reachable)

/-- A statement for each edge whose ends are both in the graph. -/
def edgeStatements : List DotStatement :=
  graph.edges.filterMap fun edge ↦ do
    return .edge (← graph.lastPosition? edge.source) (← graph.lastPosition? edge.target)
      edge.kind.dotStyle (edge.caption.map Dot.escape)

/-- Nodes are named by their positions, so no text of an author is ever a name; such texts stand
only between quotes. -/
def dot : String :=
  "digraph LabelGraph \x7b\n    rankdir=TB;\n    node [shape=box];\n\n" ++
    String.join (graph.nodeStatements.map DotStatement.text) ++ "\n" ++
    String.join (graph.edgeStatements.map DotStatement.text) ++ "\x7d\n"

end Graph

end StoryGraph
