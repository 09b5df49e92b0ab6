import Mathlib.Logic.Equiv.Basic
import StoryGraph.Graph.Stats
import StoryGraph.Proofs.Continuations
import StoryGraph.Proofs.Relabelling

namespace StoryGraph

/-- Other words for ids and references. Different words stay different; the empty word and the
reserved ones stay as they are. -/
structure Renaming where
  toFun : String → String
  injective : Function.Injective toFun
  empty : toFun "" = ""
  cover : toFun "cover" = "cover"
  ending : toFun "ending" = "ending"

instance : CoeFun Renaming fun _ ↦ String → String := ⟨Renaming.toFun⟩

variable (r : Renaming)

def Label.rename : Label → Label
  | scene id => scene (r id)
  | cover => cover
  | ending => ending

def Branch.rename (branch : Branch) : Branch := { branch with target := branch.target.rename r }

def Continuation.rename : Continuation → Continuation
  | afterLastLine target => afterLastLine (target.rename r)
  | proceed caption target => proceed caption (target.rename r)
  | menu branches => menu (branches.map (Branch.rename r))
  | terminal => terminal

def Node.rename (node : Node) : Node :=
  { node with label := node.label.rename r, continuation := node.continuation.rename r }

def Graph.rename (graph : Graph) : Graph where
  nodes := graph.nodes.map (Node.rename r)
  start := graph.start.map (Label.rename r)

def Edge.rename (edge : Edge) : Edge :=
  { edge with source := edge.source.rename r, target := edge.target.rename r }

namespace Draft

def Choice.rename (choice : Choice) : Choice := { choice with next := choice.next.map r }

def Scene.rename (scene : Scene) : Scene :=
  { scene with
    id := scene.id.map r
    choices := scene.choices.map (Choice.rename r)
    next := scene.next.map r }

def rename (draft : Draft) : Draft :=
  { draft with
    scenes := draft.scenes.map (Scene.rename r)
    startScene := draft.startScene.map r }

end Draft

namespace Script

def Choice.rename (choice : Choice) : Choice := { choice with next := choice.next.map r }

def Scene.rename (scene : Scene) : Scene :=
  { scene with
    id := r scene.id
    choices := scene.choices.map (Choice.rename r)
    next := scene.next.map r
    fallback := scene.fallback.map r }

def rename (script : Script) : Script :=
  { script with
    scenes := script.scenes.map (Scene.rename r)
    start := script.start.map (Label.rename r) }

end Script

theorem Renaming.eq_iff_of_fixed {fixed : String} (hfixed : r fixed = fixed) {word : String} :
    r word = fixed ↔ word = fixed := by
  conv_lhs => rw [← hfixed]
  exact r.injective.eq_iff

theorem Label.rename_injective : Function.Injective (Label.rename r) := by
  intro label other h
  cases label with
  | scene id =>
    cases other with
    | scene other => exact congrArg Label.scene (r.injective (Label.scene.inj h))
    | cover | ending => cases h
  | cover =>
    cases other with
    | cover => rfl
    | ending | scene => cases h
  | ending =>
    cases other with
    | ending => rfl
    | cover | scene => cases h

theorem Label.reserved?_rename (word : String) :
    reserved? (r word) = (reserved? word).map (Label.rename r) := by
  simp only [reserved?, r.eq_iff_of_fixed r.cover, r.eq_iff_of_fixed r.ending]
  split_ifs <;> rfl

theorem filled_map (text : Option String) : filled (text.map r) = (filled text).map r := by
  cases text with
  | none => rfl
  | some word =>
    by_cases h : word = "" <;> simp [filled, Option.filter, r.eq_iff_of_fixed r.empty, h]

def SceneIndex.rename (index : SceneIndex) : SceneIndex := ⟨index.ids.map r⟩

theorem SceneIndex.contains_rename (index : SceneIndex) (id : String) :
    (index.rename r).contains (r id) = index.contains id := by
  simp [contains, rename, List.contains_eq_mem, List.mem_map_of_injective r.injective]

namespace Reference

variable (index : SceneIndex) (hasEnding : Bool)

theorem honoured?_rename (word : String) :
    honoured? (index.rename r) hasEnding (r word) =
      (honoured? index hasEnding word).map (Label.rename r) := by
  unfold honoured?
  rw [Label.reserved?_rename, SceneIndex.contains_rename]
  cases hword : Label.reserved? word with
  | none => cases index.contains word <;> rfl
  | some label =>
    cases label with
    | cover => rfl
    | ending => cases hasEnding <;> rfl
    | scene id => exact absurd hword (Label.reserved?_ne_scene word id)

theorem fallback?_rename (fallback : Option Label) :
    fallback? (index.rename r) (fallback.map (Label.rename r)) =
      (fallback? index fallback).map (Label.rename r) := by
  cases fallback with
  | none => rfl
  | some label =>
    cases label with
    | cover | ending => rfl
    | scene id =>
      change (if (index.rename r).contains (r id) then _ else _) =
        Option.map _ (if index.contains id then _ else _)
      rw [SceneIndex.contains_rename]
      cases index.contains id <;> rfl

theorem resolve_rename (candidate : Option String) (fallback : Option Label) :
    resolve (index.rename r) hasEnding (candidate.map r) (fallback.map (Label.rename r)) =
      (resolve index hasEnding candidate fallback).rename r := by
  have hhonoured : (filled (candidate.map r)).bind (honoured? (index.rename r) hasEnding) =
      ((filled candidate).bind (honoured? index hasEnding)).map (Label.rename r) := by
    rw [filled_map]
    cases filled candidate with
    | none => rfl
    | some word => exact honoured?_rename r index hasEnding word
  have hlast : (last hasEnding).rename r = last hasEnding := by cases hasEnding <;> rfl
  rw [resolve, resolve, hhonoured, fallback?_rename]
  cases (filled candidate).bind (honoured? index hasEnding) with
  | some label => rfl
  | none =>
    cases fallback? index fallback with
    | some label => rfl
    | none => exact hlast.symm

end Reference

namespace Script

variable (script : Script) (scene : Scene)

theorem index_rename : (script.rename r).index = script.index.rename r := by
  rw [index, rename, index, SceneIndex.rename, List.map_map, List.map_map]
  rfl

theorem resolve_rename (candidate : Option String) (fallback : Option Label) :
    (script.rename r).resolve (candidate.map r) (fallback.map (Label.rename r)) =
      (script.resolve candidate fallback).rename r := by
  rw [resolve, resolve, index_rename]
  exact Reference.resolve_rename r script.index script.hasEnding candidate fallback

theorem nextOf_rename :
    (script.rename r).nextOf (scene.rename r) = (script.nextOf scene).rename r := by
  have hfallback : (scene.rename r).fallback.map Label.scene =
      (scene.fallback.map Label.scene).map (Label.rename r) := by
    change (scene.fallback.map r).map Label.scene = _
    rw [Option.map_map, Option.map_map]
    rfl
  rw [nextOf, hfallback]
  exact script.resolve_rename r scene.next (scene.fallback.map .scene)

theorem branch_rename (index : Nat) (choice : Choice) :
    (script.rename r).branch (scene.rename r) index (choice.rename r) =
      (script.branch scene index choice).rename r := by
  rw [branch, nextOf_rename]
  exact congrArg (Branch.mk index choice.caption)
    (script.resolve_rename r choice.next (some (script.nextOf scene)))

theorem sceneContinuation_rename :
    (script.rename r).sceneContinuation (scene.rename r) =
      (script.sceneContinuation scene).rename r := by
  have hchoices : (scene.rename r).choices = scene.choices.map (Choice.rename r) := rfl
  have hlines : (scene.rename r).lines = scene.lines := rfl
  rw [sceneContinuation, sceneContinuation, nextOf_rename, hchoices, hlines, List.isEmpty_map]
  split_ifs
  · exact congrArg Continuation.menu
      (Occurrence.mapIdx_map (script.branch_rename r scene) scene.choices)
  · rfl
  · rfl

theorem coverNode_rename : (script.rename r).coverNode = script.coverNode.rename r := by
  have hcontinuation :
      (script.rename r).coverContinuation = script.coverContinuation.rename r := by
    have hstart : (script.rename r).start = script.start.map (Label.rename r) := rfl
    have hending : (script.rename r).hasEnding = script.hasEnding := rfl
    rw [coverContinuation, coverContinuation, hstart, hending]
    cases script.start with
    | some target => rfl
    | none => cases script.hasEnding <;> rfl
  rw [coverNode, hcontinuation]
  rfl

theorem compile_rename : (script.rename r).compile = script.compile.rename r := by
  have hscenes : (script.scenes.map (Scene.rename r)).map (script.rename r).sceneNode =
      (script.scenes.map script.sceneNode).map (Node.rename r) := by
    rw [List.map_map, List.map_map]
    apply List.map_congr_left
    intro scene _
    rw [Function.comp_apply, sceneNode, sceneContinuation_rename]
    rfl
  have hending : (script.ending.map endingNode).toList =
      (script.ending.map endingNode).toList.map (Node.rename r) := by
    cases script.ending <;> rfl
  rw [compile, compile, Graph.rename, coverNode_rename, List.map_cons, List.map_append, ← hscenes,
    ← hending]
  rfl

end Script

namespace Draft

variable (draft : Draft)

theorem named_rename :
    (draft.rename r).named = draft.named.map (Prod.map r (Scene.rename r)) := by
  change (draft.scenes.map (Scene.rename r)).filterMap _ = _
  rw [named, List.filterMap_map, List.map_filterMap]
  apply List.filterMap_congr
  intro scene _
  have hname : (scene.rename r).name? = scene.name?.map r := filled_map r scene.id
  rw [Function.comp_apply, hname, Option.map_map, Option.map_map]
  rfl

theorem ids_rename : (draft.rename r).ids = draft.ids.map r := by
  rw [ids, named_rename, ids, List.map_map, List.map_map]
  rfl

theorem startLabel_rename :
    (draft.rename r).startLabel = draft.startLabel.map (Label.rename r) := by
  have hdeclared : (draft.rename r).startScene.filter (draft.rename r).ids.contains =
      (draft.startScene.filter draft.ids.contains).map r := by
    change (draft.startScene.map r).filter _ = _
    rw [ids_rename]
    cases draft.startScene with
    | none => rfl
    | some id =>
      by_cases h : id ∈ draft.ids <;> simp [Option.filter, r.injective.eq_iff, h]
  rw [startLabel, startLabel, hdeclared, ids_rename, List.head?_map]
  cases draft.startScene.filter draft.ids.contains with
  | some id => rfl
  | none =>
    cases draft.ids.head? with
    | some id => rfl
    | none =>
      change (if draft.hasEnding then _ else _) = Option.map _ (if draft.hasEnding then _ else _)
      cases draft.hasEnding <;> rfl

theorem Scene.normalize_rename (settings : Settings) (id : String) (scene : Scene)
    (fallback : Option String) :
    (scene.rename r).normalize settings (r id) (fallback.map r) =
      (scene.normalize settings id fallback).rename r := by
  have hchoices : ((scene.choices.map (Choice.rename r)).mapIdx (Choice.normalize settings)) =
      (scene.choices.mapIdx (Choice.normalize settings)).map (Script.Choice.rename r) := by
    apply Occurrence.mapIdx_map
    intro index choice
    exact congrArg (Script.Choice.mk _) (filled_map r choice.next)
  change Script.Scene.mk _ _ _ _ (List.mapIdx _ (scene.choices.map _)) (filled (scene.next.map r)) _
    = _
  rw [hchoices, filled_map]
  rfl

theorem mergedScenes_rename (settings : Settings) :
    (draft.rename r).mergedScenes settings =
      (draft.mergedScenes settings).map (Script.Scene.rename r) := by
  rw [mergedScenes_eq_map, mergedScenes_eq_map, named_rename, Occurrence.lasts_map r.injective,
    List.map_map, List.map_map]
  apply List.map_congr_left
  intro entry _
  exact Scene.normalize_rename r settings entry.1 entry.2.1 entry.2.2

theorem normalize_rename (settings : Settings) :
    (draft.rename r).normalize settings = (draft.normalize settings).rename r := by
  rw [normalize, mergedScenes_rename, startLabel_rename]
  rfl

end Draft

namespace Graph

variable (graph : Graph)

theorem edges_rename : (graph.rename r).edges = graph.edges.map (Edge.rename r) := by
  rw [edges, rename, List.flatMap_map, edges, List.map_flatMap]
  apply List.flatMap_congr
  intro node _
  unfold Node.edges Node.rename Continuation.rename
  cases node.continuation with
  | menu branches => simp [Edge.rename, Branch.rename, Function.comp_def]
  | afterLastLine target | proceed caption target | terminal => rfl

theorem relabelled_rename : Relabelled (Label.rename r) graph (graph.rename r) where
  injective := Label.rename_injective r
  cover := rfl
  ways := by
    change (graph.nodes.map (Node.rename r)).map Node.ways = _
    rw [List.map_map, List.map_map]
    apply List.map_congr_left
    intro node _
    refine congrArg (Prod.mk (node.label.rename r)) ?_
    change (node.continuation.rename r).targets = _
    cases node.continuation with
    | menu branches =>
      simp [Continuation.rename, Continuation.targets, Branch.rename, Function.comp_def]
    | afterLastLine target | proceed caption target | terminal => rfl

theorem stats_rename : (graph.rename r).stats = graph.stats := by
  have hnodes : (graph.rename r).nodes.length = graph.nodes.length := List.length_map _
  have hscenes : (graph.rename r).nodes.filter Node.isScene =
      (graph.nodes.filter Node.isScene).map (Node.rename r) := List.filter_map
  have hlines (node : Node) : (node.rename r).content.lines = node.content.lines := rfl
  have hbranches (node : Node) : (node.rename r).continuation.branches =
      node.continuation.branches.map (Branch.rename r) := by
    change (node.continuation.rename r).branches = _
    cases node.continuation <;> rfl
  simp only [stats, hnodes, hscenes, edges_rename, (graph.relabelled_rename r).reachable,
    List.length_map, List.flatMap_map, hlines, hbranches, ← List.map_flatMap]

end Graph

/-- A draft in other words compiles to the graph in those words: the same nodes in the same order,
edges between the same nodes, the same nodes reached, and all counts as they were. -/
theorem Draft.compile_equivariant (settings : Settings) (draft : Draft) :
    (draft.rename r).compile settings = (draft.compile settings).rename r ∧
      ((draft.rename r).compile settings).edges =
        (draft.compile settings).edges.map (Edge.rename r) ∧
      ((draft.rename r).compile settings).reachable =
        (draft.compile settings).reachable.map (Label.rename r) ∧
      ((draft.rename r).compile settings).stats = (draft.compile settings).stats := by
  have hgraph : (draft.rename r).compile settings = (draft.compile settings).rename r := by
    rw [compile, normalize_rename, Script.compile_rename]
    rfl
  refine ⟨hgraph, ?_, ?_, ?_⟩
  · rw [hgraph, Graph.edges_rename]
  · rw [hgraph, (Graph.relabelled_rename r _).reachable]
  · rw [hgraph, Graph.stats_rename]

def Renaming.swap (word other : String) (hword : word ∉ ["", "cover", "ending"])
    (hother : other ∉ ["", "cover", "ending"]) : Renaming where
  toFun := Equiv.swap word other
  injective := (Equiv.swap word other).injective
  empty := Equiv.swap_apply_of_ne_of_ne (by grind) (by grind)
  cover := Equiv.swap_apply_of_ne_of_ne (by grind) (by grind)
  ending := Equiv.swap_apply_of_ne_of_ne (by grind) (by grind)

theorem Draft.compile_equivariant_rewrittenHub :
    ((rewrittenHub.rename (.swap "hub" "attic" (by decide) (by decide))).compile {}).start =
        some (.scene "attic") ∧
      ((rewrittenHub.rename (.swap "hub" "attic" (by decide) (by decide))).compile {}).reachable =
        [.cover, .scene "attic", .ending, .scene "shop"] := by
  obtain ⟨hgraph, _, hreachable, _⟩ :=
    compile_equivariant (.swap "hub" "attic" (by decide) (by decide)) {} rewrittenHub
  rw [hreachable, hgraph]
  exact ⟨by decide, by decide⟩

end StoryGraph
