import StoryGraph.Graph.Basic

namespace StoryGraph

inductive EdgeKind where
  | afterLastLine
  | proceed
  | choice (index : Nat)
  deriving DecidableEq, Repr, Inhabited

structure Edge where
  source : Label
  target : Label
  kind : EdgeKind
  caption : Option String
  deriving DecidableEq, Repr, Inhabited

def Node.edges (node : Node) : List Edge :=
  match node.continuation with
  | .afterLastLine target => [⟨node.label, target, .afterLastLine, none⟩]
  | .proceed caption target => [⟨node.label, target, .proceed, some caption⟩]
  | .menu branches => branches.map fun branch ↦
      ⟨node.label, branch.target, .choice branch.index, some branch.caption⟩
  | .terminal => []

def Graph.edges (graph : Graph) : List Edge := graph.nodes.flatMap Node.edges

theorem Node.map_target_edges (node : Node) :
    node.edges.map Edge.target = node.continuation.targets := by
  unfold edges Continuation.targets
  cases node.continuation <;> simp

theorem Node.source_of_mem_edges {node : Node} {edge : Edge} (h : edge ∈ node.edges) :
    edge.source = node.label := by
  unfold edges at h
  split at h
  · rw [List.mem_singleton.mp h]
  · rw [List.mem_singleton.mp h]
  · obtain ⟨branch, _, rfl⟩ := List.mem_map.mp h
    rfl
  · cases h

theorem Node.exists_edge_of_mem_targets {node : Node} {target : Label}
    (h : target ∈ node.continuation.targets) :
    ∃ edge ∈ node.edges, edge.source = node.label ∧ edge.target = target := by
  rw [← node.map_target_edges] at h
  obtain ⟨edge, hedge, htarget⟩ := List.mem_map.mp h
  exact ⟨edge, hedge, source_of_mem_edges hedge, htarget⟩

end StoryGraph
