import Mathlib.Data.List.Forall2
import StoryGraph.Graph.Edge
import StoryGraph.Proofs.Continuations
import StoryGraph.Proofs.Relabelling

namespace StoryGraph

def Continuation.wordless : Continuation → Continuation
  | afterLastLine target => afterLastLine target
  | proceed _ target => proceed "" target
  | menu branches => menu (branches.map fun branch ↦ { branch with caption := "" })
  | terminal => terminal

def Node.route (node : Node) : Label × Continuation := (node.label, node.continuation.wordless)

def Edge.wordless (edge : Edge) : Edge := { edge with caption := none }

theorem Continuation.targets_wordless (continuation : Continuation) :
    continuation.wordless.targets = continuation.targets := by
  cases continuation with
  | menu branches => simp [wordless, targets, Function.comp_def]
  | afterLastLine target | proceed caption target | terminal => rfl

namespace Graph

def routes (graph : Graph) : List (Label × Continuation) := graph.nodes.map Node.route

variable {graph other : Graph}

theorem relabelled_of_routes_eq (h : other.routes = graph.routes) : Relabelled id graph other where
  injective := Function.injective_id
  cover := rfl
  ways := by
    have hways (graph : Graph) : graph.nodes.map Node.ways =
        graph.routes.map fun route ↦ (route.1, route.2.targets) := by
      rw [routes, List.map_map]
      apply List.map_congr_left
      intro node _
      exact congrArg (Prod.mk node.label) node.continuation.targets_wordless.symm
    simp [hways, h]

theorem labels_of_routes_eq (h : other.routes = graph.routes) : other.labels = graph.labels := by
  rw [(relabelled_of_routes_eq h).labels, List.map_id]

theorem reachable_of_routes_eq (h : other.routes = graph.routes) :
    other.reachable = graph.reachable := by
  rw [(relabelled_of_routes_eq h).reachable, List.map_id]

theorem get?_of_routes_eq (h : other.routes = graph.routes) (label : Label) :
    (other.get? label).map Node.route = (graph.get? label).map Node.route := by
  rw [map_get? Node.route fun _ ↦ rfl, map_get? Node.route fun _ ↦ rfl]
  exact congrArg (List.find? fun route ↦ route.1 = label) h

theorem edges_of_routes_eq (h : other.routes = graph.routes) :
    other.edges.map Edge.wordless = graph.edges.map Edge.wordless := by
  have hnode (node : Node) : node.edges.map Edge.wordless =
      (Node.mk node.route.1 default node.route.2).edges.map Edge.wordless := by
    obtain ⟨label, content, continuation⟩ := node
    cases continuation with
    | menu branches => simp [Node.edges, Node.route, Continuation.wordless, Edge.wordless]
    | afterLastLine target | proceed caption target | terminal => rfl
  have hedges (graph : Graph) : graph.edges.map Edge.wordless = graph.routes.flatMap
      fun route ↦ (Node.mk route.1 default route.2).edges.map Edge.wordless := by
    rw [edges, List.map_flatMap, routes, List.flatMap_map]
    exact List.flatMap_congr fun node _ ↦ hnode node
  rw [hedges, hedges, h]

end Graph

namespace Script

structure Scene.Course where
  id : String
  next : Option String
  fallback : Option String
  choices : List (Option String)
  silent : Bool

def Scene.course (scene : Scene) : Course :=
  ⟨scene.id, scene.next, scene.fallback, scene.choices.map Choice.next, scene.lines.isEmpty⟩

/-- The scripts differ in nothing but what is said and shown. -/
structure SameCourse (script other : Script) : Prop where
  scenes : other.scenes.map Scene.course = script.scenes.map Scene.course
  hasEnding : other.hasEnding = script.hasEnding
  start : other.start = script.start

variable {script other : Script} {scene : Scene}

theorem wordless_sceneContinuation (script : Script) (scene : Scene) :
    (script.sceneContinuation scene).wordless =
      if scene.course.choices ≠ [] then
        .menu (scene.course.choices.mapIdx fun index next ↦
          ⟨index, "", script.resolve next (some (script.nextOf scene))⟩)
      else if scene.course.silent then .proceed "" (script.nextOf scene)
      else .afterLastLine (script.nextOf scene) := by
  unfold sceneContinuation
  by_cases hchoices : scene.choices = []
  · cases hlines : scene.lines.isEmpty <;>
      simp [Scene.course, hchoices, hlines, Continuation.wordless]
  · have hbranches : (scene.choices.mapIdx (script.branch scene)).map
        (fun branch ↦ { branch with caption := "" }) =
          scene.course.choices.mapIdx fun index next ↦
            ⟨index, "", script.resolve next (some (script.nextOf scene))⟩ := by
      symm
      apply Occurrence.mapIdx_map
      intro index choice
      rfl
    have hcourse : scene.course.choices ≠ [] := by simpa [Scene.course] using hchoices
    rw [if_pos (by simpa using hchoices), if_pos hcourse, ← hbranches]
    rfl

namespace SameCourse

theorem resolve (h : SameCourse script other) (candidate : Option String)
    (fallback : Option Label) :
    other.resolve candidate fallback = script.resolve candidate fallback := by
  have hids (script : Script) :
      script.index = ⟨(script.scenes.map Scene.course).map Scene.Course.id⟩ := by
    rw [List.map_map]
    rfl
  rw [Script.resolve, Script.resolve, hids, hids, h.scenes, h.hasEnding]

theorem route_sceneNode (h : SameCourse script other) {scene scene' : Scene}
    (hscene : scene.course = scene'.course) :
    (other.sceneNode scene).route = (script.sceneNode scene').route := by
  have hnext : other.nextOf scene = script.nextOf scene' := by
    rw [nextOf, nextOf, h.resolve]
    change script.resolve scene.course.next (scene.course.fallback.map .scene) = _
    rw [hscene]
    rfl
  have hid : scene.id = scene'.id := congrArg Scene.Course.id hscene
  have hcontinuation : (other.sceneContinuation scene).wordless =
      (script.sceneContinuation scene').wordless := by
    simp only [wordless_sceneContinuation, h.resolve, hnext, hscene]
  exact Prod.ext (congrArg Label.scene hid) hcontinuation

theorem routes_compile (h : SameCourse script other) :
    other.compile.routes = script.compile.routes := by
  have hcover : other.coverNode.route = script.coverNode.route := by
    refine congrArg (Prod.mk Label.cover) ?_
    change other.coverContinuation.wordless = script.coverContinuation.wordless
    rw [coverContinuation, coverContinuation, h.start, h.hasEnding]
    cases script.start with
    | some target => rfl
    | none => cases script.hasEnding <;> rfl
  have hscenes : (other.scenes.map other.sceneNode).map Node.route =
      (script.scenes.map script.sceneNode).map Node.route := by
    have hcourses := h.scenes
    rw [← List.forall₂_eq_eq_eq, List.forall₂_map_left_iff, List.forall₂_map_right_iff] at hcourses
    rw [List.map_map, List.map_map, ← List.forall₂_eq_eq_eq, List.forall₂_map_left_iff,
      List.forall₂_map_right_iff]
    exact hcourses.imp fun _ _ hscene ↦ h.route_sceneNode hscene
  have hending (script : Script) : (script.ending.map endingNode).toList.map Node.route =
      if script.hasEnding then [(.ending, .proceed "" .cover)] else [] := by
    rw [Script.hasEnding]
    cases script.ending <;> rfl
  simp only [Graph.routes, compile, List.map_cons, List.map_append, hcover, hscenes, hending,
    h.hasEnding]

end SameCourse

end Script

namespace Draft

structure Scene.Skeleton where
  id : Option String
  next : Option String
  choices : List (Option String)
  silent : Bool
  deriving DecidableEq

def Scene.skeleton (scene : Scene) : Skeleton :=
  ⟨scene.id, scene.next, scene.choices.map Choice.next, scene.dialogue.isEmpty⟩

/-- A draft without its texts and cards. Of the ending it is left whether there is one. -/
structure Skeleton where
  scenes : List Scene.Skeleton
  startScene : Option String
  hasEnding : Bool
  deriving DecidableEq

def skeleton (draft : Draft) : Skeleton :=
  ⟨draft.scenes.map Scene.skeleton, draft.startScene, draft.hasEnding⟩

variable {draft other : Draft}

theorem named_of_skeleton_eq (h : other.skeleton = draft.skeleton) :
    other.named.map (Prod.map id Scene.skeleton) =
      draft.named.map (Prod.map id Scene.skeleton) := by
  have hnamed (draft : Draft) : draft.named.map (Prod.map id Scene.skeleton) =
      draft.skeleton.scenes.filterMap fun scene ↦ (filled scene.id).map (·, scene) := by
    rw [named, List.map_filterMap, skeleton, List.filterMap_map]
    apply List.filterMap_congr
    intro scene _
    rw [Option.map_map]
    rfl
  rw [hnamed, hnamed, h]

theorem ids_of_skeleton_eq (h : other.skeleton = draft.skeleton) : other.ids = draft.ids := by
  have hids (draft : Draft) :
      draft.ids = (draft.named.map (Prod.map id Scene.skeleton)).map Prod.fst := by
    rw [List.map_map]
    rfl
  rw [hids, hids, named_of_skeleton_eq h]

theorem courses_mergedScenes (settings : Settings) (draft : Draft) :
    (draft.mergedScenes settings).map Script.Scene.course =
      (Occurrence.lasts (draft.named.map (Prod.map id Scene.skeleton))).map fun entry ↦
        ⟨entry.1, filled entry.2.1.next, entry.2.2, entry.2.1.choices.map filled,
          entry.2.1.silent⟩ := by
  rw [mergedScenes_eq_map, Occurrence.lasts_map Function.injective_id, List.map_map, List.map_map]
  apply List.map_congr_left
  intro entry _
  obtain ⟨id, scene, follower⟩ := entry
  have hlines : (scene.normalize settings id follower).lines.isEmpty = scene.dialogue.isEmpty :=
    List.isEmpty_map
  simp only [Function.comp_apply, Script.Scene.course, map_next_normalize, hlines, Scene.skeleton,
    Prod.map_apply, Option.map_id, List.map_map]
  rfl

theorem sameCourse_normalize (h : other.skeleton = draft.skeleton) (settings settings' : Settings) :
    (draft.normalize settings).SameCourse (other.normalize settings') where
  scenes := by
    change (other.mergedScenes settings').map _ = (draft.mergedScenes settings).map _
    rw [courses_mergedScenes, courses_mergedScenes, named_of_skeleton_eq h]
  hasEnding := by
    rw [hasEnding_normalize, hasEnding_normalize]
    exact congrArg Skeleton.hasEnding h
  start := by
    have hstart : other.startScene = draft.startScene := congrArg Skeleton.startScene h
    have hending : other.hasEnding = draft.hasEnding := congrArg Skeleton.hasEnding h
    change other.startLabel = draft.startLabel
    rw [startLabel, startLabel, hstart, ids_of_skeleton_eq h, hending]

/-- Drafts with one skeleton have the same ways under all settings: the same labels in the same
order, the same start, and at every label a way on that differs in its captions only. Limits make no
difference at all. -/
theorem compile_of_skeleton_eq (settings settings' : Settings)
    (h : other.skeleton = draft.skeleton) :
    (other.compile settings').labels = (draft.compile settings).labels ∧
      (other.compile settings').start = (draft.compile settings).start ∧
      (∀ label, ((other.compile settings').get? label).map Node.route =
        ((draft.compile settings).get? label).map Node.route) ∧
      (other.compile settings').reachable = (draft.compile settings).reachable ∧
      (other.compile settings').edges.map Edge.wordless =
        (draft.compile settings).edges.map Edge.wordless ∧
      ∀ limits, draft.compile { settings with limits } = draft.compile settings := by
  have hcourse := sameCourse_normalize h settings settings'
  have hroutes : (other.compile settings').routes = (draft.compile settings).routes :=
    hcourse.routes_compile
  exact ⟨Graph.labels_of_routes_eq hroutes, hcourse.start, Graph.get?_of_routes_eq hroutes,
    Graph.reachable_of_routes_eq hroutes, Graph.edges_of_routes_eq hroutes, fun _ ↦ rfl⟩

def captionedHub : Draft where
  version := some "2.0"
  cover := some ⟨none, some "dawn", some "The Hub", none, none, some ""⟩
  scenes := [⟨some "hub", none, none, [], [], some "shop"⟩,
    ⟨some "shop", some "shelves", some "red", [], [], none⟩,
    ⟨some "hub", none, none, [], [⟨some "Up", some "attic"⟩, ⟨some "", some "shop"⟩], some "cover"⟩]
  ending := some ⟨none, some "Closed", none, none⟩
  startScene := some "cellar"

theorem compile_of_skeleton_eq_captionedHub :
    captionedHub.skeleton = rewrittenHub.skeleton ∧
      (captionedHub.compile { choiceCaption := "" }).reachable =
        (rewrittenHub.compile {}).reachable ∧
      (captionedHub.compile { choiceCaption := "" }).edges ≠ (rewrittenHub.compile {}).edges := by
  have hskeleton : captionedHub.skeleton = rewrittenHub.skeleton := by decide
  exact ⟨hskeleton, (compile_of_skeleton_eq {} { choiceCaption := "" } hskeleton).2.2.2.1,
    by decide⟩

end Draft

end StoryGraph
