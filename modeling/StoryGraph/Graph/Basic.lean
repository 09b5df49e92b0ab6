import StoryGraph.Content
import StoryGraph.Label

namespace StoryGraph

structure Branch where
  index : Nat
  caption : String
  target : Label
  deriving DecidableEq, Repr, Inhabited

inductive Continuation where
  | afterLastLine (target : Label)
  | proceed (caption : String) (target : Label)
  | menu (branches : List Branch)
  | terminal
  deriving DecidableEq, Repr, Inhabited

def Continuation.targets : Continuation → List Label
  | afterLastLine target | proceed _ target => [target]
  | menu branches => branches.map Branch.target
  | terminal => []

structure Node where
  label : Label
  content : Content
  continuation : Continuation
  deriving DecidableEq, Repr, Inhabited

/-- Nothing here forbids a repeated label or a target that names no label; compiled graphs have
neither. -/
structure Graph where
  nodes : List Node
  start : Option Label
  deriving DecidableEq, Repr, Inhabited

namespace Graph

variable (graph : Graph)

def get? (label : Label) : Option Node := graph.nodes.find? fun node ↦ node.label = label

def contains (label : Label) : Bool := (graph.get? label).isSome

def labels : List Label := graph.nodes.map Node.label

def targets : List Label := graph.nodes.flatMap fun node ↦ node.continuation.targets

def dangling : List Label :=
  let labels := graph.labels
  graph.targets.filter fun target ↦ !labels.contains target

@[simp] theorem contains_eq_true {label : Label} :
    graph.contains label = true ↔ label ∈ graph.labels := by
  simp [contains, get?, labels]

end Graph

end StoryGraph
