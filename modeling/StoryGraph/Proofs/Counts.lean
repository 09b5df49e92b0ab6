import Mathlib.Data.Set.Card
import StoryGraph.Graph.Stats
import StoryGraph.Proofs.Findings
import StoryGraph.Proofs.Search

namespace StoryGraph

def EdgeKind.choice? : EdgeKind → Option Nat
  | choice index => some index
  | afterLastLine | proceed => none

def Continuation.isMenu : Continuation → Bool
  | menu _ => true
  | afterLastLine _ | proceed .. | terminal => false

namespace Node

theorem filterMap_choice?_edges (node : Node) :
    node.edges.filterMap (fun edge ↦ edge.kind.choice?) =
      node.continuation.branches.map Branch.index := by
  unfold edges Continuation.branches
  cases node.continuation <;> simp [EdgeKind.choice?]

/-- One way leads on from a node, save that a menu has its branches instead and that nothing leads
on from a terminal node. -/
theorem length_edges_add (node : Node) :
    node.edges.length + (if node.continuation.isMenu then 1 else 0) +
        (if node.continuation = .terminal then 1 else 0) =
      1 + node.continuation.branches.length := by
  unfold edges Continuation.isMenu Continuation.branches
  cases node.continuation <;> simp [Nat.add_comm]

theorem length_flatMap_edges_add (nodes : List Node) :
    (nodes.flatMap edges).length + nodes.countP (fun node ↦ node.continuation.isMenu) +
        nodes.countP (fun node ↦ node.continuation = .terminal) =
      nodes.length + (nodes.flatMap fun node ↦ node.continuation.branches).length := by
  induction nodes with
  | nil => rfl
  | cons node nodes ih =>
    have hnode := node.length_edges_add
    simp only [List.flatMap_cons, List.length_append, List.countP_cons, List.length_cons,
      decide_eq_true_eq]
    omega

end Node

namespace Graph

variable {graph : Graph} {label : Label}

theorem map_target_edges (graph : Graph) : graph.edges.map Edge.target = graph.targets := by
  rw [edges, List.map_flatMap, targets]
  simp only [Node.map_target_edges]

theorem filterMap_choice?_edges (graph : Graph) :
    graph.edges.filterMap (fun edge ↦ edge.kind.choice?) =
      (graph.nodes.flatMap fun node ↦ node.continuation.branches).map Branch.index := by
  rw [edges, List.filterMap_flatMap, List.map_flatMap]
  simp only [Node.filterMap_choice?_edges]

theorem filter_source_edges {node : Node} (hnodup : graph.labels.Nodup)
    (hnode : node ∈ graph.nodes) :
    (graph.edges.filter fun edge ↦ edge.source = node.label) = node.edges := by
  rw [← List.filterMap_eq_filter, edges,
    filterMap_flatMap_of_key Edge.source Node.label hnodup hnode]
  · rw [List.filterMap_eq_filter, List.filter_eq_self]
    intro edge hedge
    exact decide_eq_true (Node.source_of_mem_edges hedge)
  · intro other _ edge hedge
    exact Node.source_of_mem_edges hedge
  · intro edge result hresult
    exact of_decide_eq_true (Option.guard_eq_some_iff.mp hresult).2

def reached (graph : Graph) : List Label := graph.labels.filter graph.reachable.contains

theorem mem_reached_iff : label ∈ graph.reached ↔ graph.Reaches label := by
  rw [reached, List.mem_filter, List.contains_iff_mem, mem_reachable_iff, and_iff_right_iff_imp]
  exact Reaches.mem_labels

theorem length_reached_add (graph : Graph) :
    graph.reached.length + graph.unreachable.length = graph.nodes.length := by
  rw [reached, unreachable, ← List.length_eq_length_filter_add, labels, List.length_map]

theorem coe_toFinset_reached (graph : Graph) :
    (graph.reached.toFinset : Set Label) = {label | graph.Reaches label} := by
  ext label
  simp [mem_reached_iff]

theorem ncard_reaches_eq_card (graph : Graph) :
    {label | graph.Reaches label}.ncard = graph.reached.toFinset.card := by
  rw [← coe_toFinset_reached, Set.ncard_coe_finset]

/-- The search finds each label once. -/
theorem length_reachable (graph : Graph) :
    graph.reachable.length = {label | graph.Reaches label}.ncard := by
  rw [ncard_reaches_eq_card, ← List.toFinset_card_of_nodup (nodup_reachable graph)]
  congr 1
  ext label
  simp [mem_reached_iff, mem_reachable_iff]

theorem ncard_reaches_le (graph : Graph) :
    {label | graph.Reaches label}.ncard ≤ graph.reached.length := by
  rw [ncard_reaches_eq_card]
  exact List.toFinset_card_le _

theorem ncard_reaches_eq_iff :
    {label | graph.Reaches label}.ncard = graph.reached.length ↔
      ∀ label, graph.Reaches label → graph.labels.count label = 1 := by
  rw [ncard_reaches_eq_card, ← Multiset.coe_card, List.toFinset,
    Multiset.toFinset_card_eq_card_iff_nodup, Multiset.coe_nodup, List.nodup_iff_count_eq_one]
  apply forall_congr'
  intro label
  rw [mem_reached_iff]
  apply forall_congr'
  intro h
  rw [reached, List.count_filter]
  exact List.contains_iff_mem.mpr (mem_reachable_iff.mpr h)

/-- What is counted of a graph is what its lists say. The labels that are counted as unreachable are
those of the list and the further nodes of reachable labels. -/
structure ViewsAgree (graph : Graph) : Prop where
  targets : graph.edges.map Edge.target = graph.targets
  edgeCount : graph.stats.edgeCount = graph.targets.length
  totalLabels : graph.stats.totalLabels = graph.nodes.length
  reachableLabels : graph.stats.reachableLabels = {label | graph.Reaches label}.ncard
  reachable_add_unreachable :
    graph.stats.reachableLabels + graph.stats.unreachableLabels = graph.stats.totalLabels
  ncard_le : {label | graph.Reaches label}.ncard ≤ graph.reached.length
  unreachableLabels : graph.stats.unreachableLabels =
    graph.unreachable.length + (graph.reached.length - {label | graph.Reaches label}.ncard)
  unreachableLabels_eq_iff : graph.stats.unreachableLabels = graph.unreachable.length ↔
    ∀ label, graph.Reaches label → graph.labels.count label = 1

theorem viewsAgree (graph : Graph) : graph.ViewsAgree := by
  have htargets := graph.map_target_edges
  have hsplit := graph.length_reached_add
  have hreachable := graph.length_reachable
  have hle := graph.ncard_reaches_le
  have hunreachable : graph.stats.unreachableLabels = graph.unreachable.length +
      (graph.reached.length - {label | graph.Reaches label}.ncard) := by
    change graph.nodes.length - graph.reachable.length = _
    omega
  refine ⟨htargets, ?_, rfl, hreachable, ?_, hle, hunreachable, ?_⟩
  · rw [← htargets, List.length_map]
    rfl
  · change graph.reachable.length + (graph.nodes.length - graph.reachable.length) =
      graph.nodes.length
    omega
  · rw [hunreachable, ← ncard_reaches_eq_iff]
    omega

-- The second cover is counted as unreachable and is not in the list.
example : (Graph.stats ⟨[⟨.cover, default, .terminal⟩, ⟨.cover, default, .terminal⟩],
    none⟩).unreachableLabels = 1 ∧
    (Graph.unreachable ⟨[⟨.cover, default, .terminal⟩, ⟨.cover, default, .terminal⟩],
      none⟩).length = 0 := by decide

end Graph

namespace Script

variable {script : Script}

theorem filter_isScene_compile (script : Script) :
    script.compile.nodes.filter Node.isScene = script.scenes.map script.sceneNode := by
  have hscenes : ∀ node ∈ script.scenes.map script.sceneNode, node.isScene := by
    intro node hnode
    obtain ⟨scene, _, rfl⟩ := List.mem_map.mp hnode
    rfl
  have hending : (script.ending.map endingNode).toList.filter Node.isScene = [] := by
    cases script.ending <;> rfl
  have hcover : ¬script.coverNode.isScene := Bool.false_ne_true
  rw [compile, List.filter_cons_of_neg hcover, List.filter_append,
    List.filter_eq_self.mpr hscenes, hending, List.append_nil]

theorem branches_coverContinuation (script : Script) : script.coverContinuation.branches = [] := by
  unfold coverContinuation
  cases script.start with
  | some target => rfl
  | none => cases script.hasEnding <;> rfl

theorem branches_sceneContinuation (script : Script) (scene : Scene) :
    (script.sceneContinuation scene).branches = scene.choices.mapIdx (script.branch scene) := by
  unfold sceneContinuation
  cases scene.choices with
  | nil => cases scene.lines <;> rfl
  | cons choice choices => rfl

theorem flatMap_branches_compile (script : Script) :
    (script.compile.nodes.flatMap fun node ↦ node.continuation.branches) =
      (script.compile.nodes.filter Node.isScene).flatMap fun node ↦ node.continuation.branches := by
  have hending : ((script.ending.map endingNode).toList.flatMap fun node ↦
      node.continuation.branches) = [] := by
    cases script.ending <;> rfl
  rw [filter_isScene_compile, compile, List.flatMap_cons, List.flatMap_append, hending,
    List.append_nil, coverNode, branches_coverContinuation, List.nil_append]

theorem map_index_branches {node : Node} (h : node ∈ script.compile.nodes) :
    node.continuation.branches.map Branch.index =
      List.range node.continuation.branches.length := by
  rcases mem_nodes_compile.mp h with rfl | ⟨scene, _, rfl⟩ | ⟨card, _, rfl⟩
  · rw [coverNode, branches_coverContinuation]
    rfl
  · rw [sceneNode, branches_sceneContinuation]
    apply List.ext_getElem
    · simp
    · simp [branch]
  · rfl

/-- The ending leads back and every scene leads on, so only the cover may be terminal. -/
theorem countP_terminal_compile (script : Script) :
    script.compile.nodes.countP (fun node ↦ node.continuation = .terminal) =
      if script.coverContinuation = .terminal then 1 else 0 := by
  have hothers : (script.scenes.map script.sceneNode ++
      (script.ending.map endingNode).toList).countP (fun node ↦ node.continuation = .terminal) =
        0 := by
    rw [List.countP_eq_zero]
    intro node hnode
    rw [decide_eq_true_eq]
    obtain hscene | hending := List.mem_append.mp hnode
    · obtain ⟨scene, _, rfl⟩ := List.mem_map.mp hscene
      exact script.sceneContinuation_ne_terminal scene
    · obtain ⟨card, _, rfl⟩ := Option.map_eq_some_iff.mp (Option.mem_toList.mp hending)
      nofun
  rw [compile, List.countP_cons, hothers, Nat.zero_add]
  by_cases hcover : script.coverContinuation = .terminal <;> simp [coverNode, hcover]

end Script

namespace Draft

variable {settings : Settings} {draft : Draft}

theorem choiceCount_compile (settings : Settings) (draft : Draft) :
    (draft.compile settings).stats.choiceCount =
      ((draft.compile settings).edges.filterMap fun edge ↦ edge.kind.choice?).length := by
  rw [Graph.filterMap_choice?_edges, List.length_map]
  exact congrArg List.length (draft.normalize settings).flatMap_branches_compile.symm

theorem filterMap_choice?_compile {node : Node} (h : node ∈ (draft.compile settings).nodes) :
    ((draft.compile settings).edges.filter fun edge ↦ edge.source = node.label).filterMap
        (fun edge ↦ edge.kind.choice?) = List.range node.continuation.branches.length := by
  rw [Graph.filter_source_edges (nodup_labels_compile settings draft) h,
    Node.filterMap_choice?_edges]
  exact Script.map_index_branches h

theorem lineCount_compile (settings : Settings) (draft : Draft) :
    (draft.compile settings).stats.lineCount =
      ((Occurrence.finals draft.named).map fun entry ↦ entry.2.dialogue.length).sum := by
  have hlines : (draft.compile settings).stats.lineCount =
      ((draft.mergedScenes settings).map fun scene ↦ scene.lines.length).sum := by
    change (((draft.normalize settings).compile.nodes.filter Node.isScene).flatMap fun node ↦
      node.content.lines).length = _
    rw [Script.filter_isScene_compile, List.length_flatMap, List.map_map]
    rfl
  have hmerged : (draft.mergedScenes settings).map (fun scene ↦ scene.lines.length) =
      ((Occurrence.lasts draft.named).map fun entry ↦ (entry.1, entry.2.1)).map fun entry ↦
        entry.2.dialogue.length := by
    rw [mergedScenes_eq_map, List.map_map, List.map_map]
    apply List.map_congr_left
    intro entry _
    exact List.length_map _
  rw [hlines, hmerged]
  exact ((Occurrence.map_lasts_perm_finals draft.named).map _).sum_eq

theorem totalLabels_compile (settings : Settings) (draft : Draft) :
    (draft.compile settings).stats.totalLabels =
      (draft.compile settings).stats.sceneLabels + 1 + if draft.ending.isSome then 1 else 0 := by
  change (draft.normalize settings).compile.nodes.length =
    ((draft.normalize settings).compile.nodes.filter Node.isScene).length + 1 + _
  rw [Script.filter_isScene_compile]
  cases hending : draft.ending <;> simp [Script.compile, normalize, hending]

theorem edgeCount_compile (settings : Settings) (draft : Draft) :
    (draft.compile settings).stats.edgeCount +
        (draft.compile settings).nodes.countP (fun node ↦ node.continuation.isMenu) +
        (if ((draft.compile settings).get? .cover).map Node.continuation = some .terminal
          then 1 else 0) =
      (draft.compile settings).stats.totalLabels + (draft.compile settings).stats.choiceCount := by
  have hnodes := Node.length_flatMap_edges_add (draft.compile settings).nodes
  have hbranches := congrArg List.length (draft.normalize settings).flatMap_branches_compile
  have hterminal : (draft.compile settings).nodes.countP
      (fun node ↦ node.continuation = .terminal) =
        if ((draft.compile settings).get? .cover).map Node.continuation = some .terminal
          then 1 else 0 := by
    simp only [get?_cover_compile, Option.map_some, Option.some.injEq]
    exact (draft.normalize settings).countP_terminal_compile
  rw [← hterminal]
  exact hnodes.trans (congrArg _ hbranches)

/-- What is counted of a compiled graph is what its edges and the scenes that are used say. -/
structure CountsAgree (settings : Settings) (draft : Draft) : Prop where
  unreachableLabels : (draft.compile settings).stats.unreachableLabels =
    (draft.compile settings).unreachable.length
  choiceCount : (draft.compile settings).stats.choiceCount =
    ((draft.compile settings).edges.filterMap fun edge ↦ edge.kind.choice?).length
  indices : ∀ node ∈ (draft.compile settings).nodes,
    ((draft.compile settings).edges.filter fun edge ↦ edge.source = node.label).filterMap
      (fun edge ↦ edge.kind.choice?) = List.range node.continuation.branches.length
  lineCount : (draft.compile settings).stats.lineCount =
    ((Occurrence.finals draft.named).map fun entry ↦ entry.2.dialogue.length).sum
  totalLabels : (draft.compile settings).stats.totalLabels =
    (draft.compile settings).stats.sceneLabels + 1 + if draft.ending.isSome then 1 else 0
  edgeCount : (draft.compile settings).stats.edgeCount +
      (draft.compile settings).nodes.countP (fun node ↦ node.continuation.isMenu) +
      (if ((draft.compile settings).get? .cover).map Node.continuation = some .terminal
        then 1 else 0) =
    (draft.compile settings).stats.totalLabels + (draft.compile settings).stats.choiceCount

theorem stats_agree :
    (∀ graph : Graph, graph.ViewsAgree) ∧
      ∀ (settings : Settings) (draft : Draft), CountsAgree settings draft := by
  refine ⟨Graph.viewsAgree, ?_⟩
  intro settings draft
  refine ⟨?_, choiceCount_compile settings draft, fun _ ↦ filterMap_choice?_compile,
    lineCount_compile settings draft, totalLabels_compile settings draft,
    edgeCount_compile settings draft⟩
  apply (Graph.viewsAgree _).unreachableLabels_eq_iff.mpr
  intro label h
  exact List.count_eq_one_of_mem (nodup_labels_compile settings draft) h.mem_labels

end Draft

end StoryGraph
