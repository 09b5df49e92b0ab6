import StoryGraph.Graph.Edge
import StoryGraph.Graph.Reachable

namespace StoryGraph

structure Stats where
  totalLabels : Nat
  sceneLabels : Nat
  lineCount : Nat
  choiceCount : Nat
  edgeCount : Nat
  reachableLabels : Nat
  unreachableLabels : Nat
  deriving DecidableEq, Repr, Inhabited

def Node.isScene (node : Node) : Bool :=
  match node.content with
  | .scene _ => true
  | .cover _ | .ending _ => false

def Continuation.branches : Continuation → List Branch
  | menu branches => branches
  | afterLastLine _ | proceed .. | terminal => []

def Graph.stats (graph : Graph) : Stats :=
  let scenes := graph.nodes.filter Node.isScene
  let reachable := graph.reachable.length
  { totalLabels := graph.nodes.length
    sceneLabels := scenes.length
    lineCount := (scenes.flatMap fun node ↦ node.content.lines).length
    choiceCount := (scenes.flatMap fun node ↦ node.continuation.branches).length
    edgeCount := graph.edges.length
    reachableLabels := reachable
    unreachableLabels := graph.nodes.length - reachable }

end StoryGraph
