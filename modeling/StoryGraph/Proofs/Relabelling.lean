import Mathlib.Data.List.Basic
import StoryGraph.Graph.Reachable

namespace StoryGraph

def Node.ways (node : Node) : Label × List Label := (node.label, node.continuation.targets)

namespace Graph

/-- The nodes of the other graph stand in the same order and lead the same ways, all labels
exchanged for others. -/
structure Relabelled (exchange : Label → Label) (graph other : Graph) : Prop where
  injective : Function.Injective exchange
  cover : exchange .cover = .cover
  ways : other.nodes.map Node.ways =
    (graph.nodes.map Node.ways).map (Prod.map exchange (List.map exchange))

variable {exchange : Label → Label} {graph other : Graph} {label : Label}

theorem map_get? {β : Type} (tell : Node → Label × β) (htell : ∀ node, (tell node).1 = node.label) :
    (graph.get? label).map tell = (graph.nodes.map tell).find? fun told ↦ told.1 = label := by
  simp only [get?, List.find?_map, Function.comp_def, htell]

theorem successors_eq_getD (graph : Graph) (label : Label) :
    graph.successors label =
      (((graph.get? label).map Node.ways).map fun way ↦ way.2.filter graph.contains).getD [] := by
  unfold successors
  cases graph.get? label <;> rfl

theorem discover_map (hexchange : Function.Injective exchange) (seen labels : List Label) :
    discover (seen.map exchange) (labels.map exchange) = (discover seen labels).map exchange := by
  induction labels generalizing seen with
  | nil => rfl
  | cons label labels ih =>
    rw [List.map_cons, discover, discover, ← ih]
    congr 1
    simp only [List.contains_iff_mem, List.mem_map_of_injective hexchange]
    split_ifs <;> simp

namespace Relabelled

theorem labels (h : Relabelled exchange graph other) :
    other.labels = graph.labels.map exchange := by
  have hlabels := congrArg (List.map Prod.fst) h.ways
  simp only [List.map_map] at hlabels
  rw [Graph.labels, Graph.labels, List.map_map]
  exact hlabels

theorem contains (h : Relabelled exchange graph other) (label : Label) :
    other.contains (exchange label) = graph.contains label := by
  rw [Bool.eq_iff_iff, contains_eq_true, contains_eq_true, h.labels,
    List.mem_map_of_injective h.injective]

theorem successors (h : Relabelled exchange graph other) (label : Label) :
    other.successors (exchange label) = (graph.successors label).map exchange := by
  have hget : (other.get? (exchange label)).map Node.ways =
      ((graph.get? label).map Node.ways).map (Prod.map exchange (List.map exchange)) := by
    rw [map_get? Node.ways fun _ ↦ rfl, map_get? Node.ways fun _ ↦ rfl, h.ways, List.find?_map]
    congr 2
    funext way
    simp [h.injective.eq_iff]
  rw [successors_eq_getD, successors_eq_getD, hget]
  cases (graph.get? label).map Node.ways with
  | none => rfl
  | some way =>
    simp only [Option.map_some, Option.getD_some, Prod.map_snd, List.filter_map]
    congr 2
    funext target
    exact h.contains target

theorem search (h : Relabelled exchange graph other) (fuel next : Nat) (seen : List Label) :
    other.search fuel next (seen.map exchange) = (graph.search fuel next seen).map exchange := by
  induction fuel generalizing next seen with
  | zero => rfl
  | succ fuel ih =>
    rw [Graph.search, Graph.search, List.getElem?_map]
    cases seen[next]? with
    | none => rfl
    | some label =>
      simp only [Option.map_some, h.successors, discover_map h.injective, ih]

/-- The search finds the same labels under their other names. -/
theorem reachable (h : Relabelled exchange graph other) :
    other.reachable = graph.reachable.map exchange := by
  have hcover := h.contains .cover
  have hlength : other.nodes.length = graph.nodes.length := by
    simpa using congrArg List.length h.ways
  have hsearch := h.search (graph.nodes.length + 1) 0 [.cover]
  rw [h.cover] at hcover
  rw [List.map_singleton, h.cover] at hsearch
  rw [Graph.reachable, Graph.reachable, hcover, hlength, hsearch]
  split_ifs <;> rfl

end Relabelled

end Graph

end StoryGraph
