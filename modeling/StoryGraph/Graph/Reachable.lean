import StoryGraph.Graph.Basic

namespace StoryGraph.Graph

variable (graph : Graph)

/-- The labels of the graph that a label leads to. Of several nodes with one label the first
counts. -/
def successors (label : Label) : List Label :=
  match graph.get? label with
  | some node => node.continuation.targets.filter graph.contains
  | none => []

/-- A chain of labels leads from the cover to a label, each followed by one of its successors. -/
inductive Reaches : Label → Prop
  | cover : graph.contains .cover → Reaches .cover
  | step {a b : Label} : Reaches a → b ∈ graph.successors a → Reaches b

def discover (seen : List Label) : List Label → List Label
  | [] => seen
  | label :: labels => discover (if seen.contains label then seen else seen ++ [label]) labels

/-- Breadth-first search. The labels found so far are in the order of their discovery; those from
position `next` on still have to be expanded. -/
def search : Nat → Nat → List Label → List Label
  | 0, _, seen => seen
  | fuel + 1, next, seen =>
    match seen[next]? with
    | none => seen
    | some label => search fuel (next + 1) (discover seen (graph.successors label))

/-- The reachable labels in the order of their discovery. There are no more than there are nodes, so
that many expansions suffice. -/
def reachable : List Label :=
  if graph.contains .cover then graph.search (graph.nodes.length + 1) 0 [.cover] else []

def unreachable : List Label :=
  let reachable := graph.reachable
  graph.labels.filter fun label ↦ !reachable.contains label

end StoryGraph.Graph
