import StoryGraph.Proofs.Playing

namespace StoryGraph

/-- The kinds of nodes that can be played. Only scenes have menus, and those are not empty; a scene
leads on with its last line if it has one and by a control if it has none. -/
inductive Node.Playable : Node → Prop
  | cover {label card caption target} : Playable ⟨label, .cover card, .proceed caption target⟩
  | bareCover {label card} : Playable ⟨label, .cover card, .terminal⟩
  | ending {label card caption target} : Playable ⟨label, .ending card, .proceed caption target⟩
  | menu {label card branches} (h : branches ≠ []) :
      Playable ⟨label, .scene card, .menu branches⟩
  | silent {label card caption target} (h : card.lines = []) :
      Playable ⟨label, .scene card, .proceed caption target⟩
  | spoken {label card target} (h : card.lines ≠ []) :
      Playable ⟨label, .scene card, .afterLastLine target⟩

namespace Graph

variable {graph : Graph} {node : Node} {label target : Label}

structure Playable (graph : Graph) : Prop where
  closed : graph.Closed
  cover_mem : .cover ∈ graph.labels
  nodes : ∀ node ∈ graph.nodes, node.Playable

theorem Closed.target_mem (h : graph.Closed) (hget : graph.get? label = some node)
    (htarget : target ∈ node.continuation.targets) : target ∈ graph.labels :=
  h target (List.mem_flatMap.mpr ⟨node, (mem_of_get?_eq_some hget).1, htarget⟩)

theorem Playable.node_playable (h : graph.Playable) (hget : graph.get? label = some node) :
    node.Playable :=
  h.nodes node (mem_of_get?_eq_some hget).1

end Graph

namespace Player

variable {graph : Graph} {player : Player} {node : Node} {branches : List Branch} {index : Nat}

theorem At.exists_view (h : At graph player node) (hnode : node.Playable) :
    ∃ view, player.view graph = .ok view := by
  simp only [view, node_of_get? h.found]
  cases hnode with
  | cover => exact ⟨_, rfl⟩
  | bareCover => exact ⟨_, rfl⟩
  | ending => exact ⟨_, rfl⟩
  | @menu _ card _ _ => cases hline : card.lines[player.cursor]? <;> simp [viewAt, hline]
  | silent hlines => simp [viewAt, hlines]
  | @spoken _ card _ hlines =>
    have hlt : player.cursor < card.lines.length := h.cursor_lt _ rfl hlines
    simp [viewAt, List.getElem?_eq_getElem hlt]

theorem At.view_eq_menu_iff (h : At graph player node) {options : List String} :
    player.view graph = .ok (.menu options) ↔
      ∃ branches, player.branches? node = some branches ∧
        options = branches.map Branch.caption := by
  simp only [view, node_of_get? h.found]
  exact viewAt_eq_menu_iff

theorem At.branches?_eq_none (h : At graph player node) {shown : View}
    (hview : player.view graph = .ok shown) (hmenu : shown.isMenu = false) :
    player.branches? node = none := by
  cases hbranches : player.branches? node with
  | none => rfl
  | some branches =>
    rw [h.view_eq_menu_iff.mpr ⟨branches, hbranches, rfl⟩] at hview
    cases hview
    cases hmenu

theorem At.advance_of_branches? (h : At graph player node)
    (hbranches : player.branches? node = some branches) :
    player.advance graph = .error (.choiceRequired player.label) := by
  obtain ⟨card, hcontent, hcontinuation, hle⟩ := branches?_eq_some_iff.mp hbranches
  have hbehind : node.content.lines.length ≤ player.cursor := by simpa [hcontent, Content.lines]
  rw [advance_of_le h.found hbehind]
  simp only [leave, hcontinuation]

theorem At.advance_terminal (h : At graph player node) (hnode : node.Playable)
    (hterminal : node.continuation = .terminal) :
    (∃ title subtitle description,
        player.view graph = .ok (.cover title subtitle description none)) ∧
      player.advance graph = .error (.noWayForward player.label) := by
  cases hnode with
  | bareCover =>
    constructor
    · simp only [view, node_of_get? h.found]
      exact ⟨_, _, _, rfl⟩
    · rw [advance_of_le h.found (Nat.zero_le _)]
      rfl
  | cover | ending | menu | silent | spoken => cases hterminal

/-- Where no menu is on show, going on leads on unless nothing does. -/
theorem At.exists_advance (h : At graph player node) (hclosed : graph.Closed)
    (hnode : node.Playable) (hbranches : player.branches? node = none)
    (hterminal : node.continuation ≠ .terminal) : ∃ next, player.advance graph = .ok next := by
  have hjump : ∀ target ∈ node.continuation.targets, jump graph target = .ok ⟨target, 0⟩ :=
    fun target htarget ↦ jump_of_mem (hclosed.target_mem h.found htarget)
  rcases Nat.lt_trichotomy (player.cursor + 1) node.content.lines.length with hlt | heq | hgt
  · exact ⟨_, advance_of_lt h.found hlt⟩
  · by_cases hcontinuation : ∃ target, node.continuation = .afterLastLine target
    · obtain ⟨target, hcontinuation⟩ := hcontinuation
      have htarget : target ∈ node.continuation.targets := by
        simp [hcontinuation, Continuation.targets]
      exact ⟨_, (advance_afterLastLine h.found heq hcontinuation).trans (hjump target htarget)⟩
    · exact ⟨_, advance_lastLine h.found heq (not_exists.mp hcontinuation)⟩
  · rw [advance_of_le h.found (by omega)]
    cases hnode with
    | cover | ending | silent | spoken => exact ⟨_, hjump _ (List.mem_singleton.mpr rfl)⟩
    | bareCover => exact absurd rfl hterminal
    | @menu label card branches _ =>
      -- The lines are behind, so the menu is on show.
      have hshown : player.branches? ⟨label, .scene card, .menu branches⟩ = some branches :=
        branches?_eq_some_iff.mpr ⟨card, rfl, rfl, Nat.le_of_lt_succ hgt⟩
      rw [hbranches] at hshown
      cases hshown

theorem At.exists_choose (h : At graph player node) (hclosed : graph.Closed)
    (hbranches : player.branches? node = some branches) (hlt : index < branches.length) :
    ∃ next, player.choose graph index = .ok next := by
  obtain ⟨card, _, hcontinuation, _⟩ := branches?_eq_some_iff.mp hbranches
  have htarget : branches[index].target ∈ node.continuation.targets := by
    rw [hcontinuation]
    exact List.mem_map.mpr ⟨_, List.getElem_mem hlt, rfl⟩
  have hmem := hclosed.target_mem h.found htarget
  exact ⟨_, (choose_of_branch h.found hbranches (List.getElem?_eq_getElem hlt)).trans
    (jump_of_mem hmem)⟩

theorem At.choose_known (h : At graph player node) (hclosed : graph.Closed) (label : Label) :
    player.choose graph index ≠ .error (.unknownLabel label) := by
  cases hbranches : player.branches? node with
  | none =>
    rw [choose_of_branches?_eq_none h.found hbranches]
    nofun
  | some branches =>
    rcases Nat.lt_or_ge index branches.length with hlt | hge
    · obtain ⟨next, hnext⟩ := h.exists_choose hclosed hbranches hlt
      rw [hnext]
      nofun
    · rw [choose_of_le h.found hbranches hge]
      nofun

theorem At.advance_known (h : At graph player node) (hclosed : graph.Closed)
    (hnode : node.Playable) (label : Label) :
    player.advance graph ≠ .error (.unknownLabel label) := by
  cases hbranches : player.branches? node with
  | some branches =>
    rw [h.advance_of_branches? hbranches]
    nofun
  | none =>
    by_cases hterminal : node.continuation = .terminal
    · rw [(h.advance_terminal hnode hterminal).2]
      nofun
    · obtain ⟨next, hnext⟩ := h.exists_advance hclosed hnode hbranches hterminal
      rw [hnext]
      nofun

/-- What a reader can do. There is always something to see. At a menu a choice has to be made, and
each choice on show can be; elsewhere there is no choice, and the reader can go on unless the story
is stuck, which a cover without control says. No move ever leads to a label that is missing. -/
structure Served (graph : Graph) (player : Player) (stuck : Prop) : Prop where
  label_mem : player.label ∈ graph.labels
  view_ok : ∃ view, player.view graph = .ok view
  menu_pos : ∀ options, player.view graph = .ok (.menu options) → 0 < options.length
  menu_advance : ∀ options, player.view graph = .ok (.menu options) →
    player.advance graph = .error (.choiceRequired player.label)
  menu_choose : ∀ options, player.view graph = .ok (.menu options) → ∀ index,
    (index < options.length → ∃ next, player.choose graph index = .ok next) ∧
    (options.length ≤ index → player.choose graph index = .error (.invalidChoice index))
  choose : ∀ view, player.view graph = .ok view → view.isMenu = false → ∀ index,
    player.choose graph index = .error (.noChoiceHere player.label)
  advance : ∀ view, player.view graph = .ok view → view.isMenu = false → ¬ stuck →
    ∃ next, player.advance graph = .ok next
  stuck : stuck →
    (∃ title subtitle description,
      player.view graph = .ok (.cover title subtitle description none)) ∧
    player.advance graph = .error (.noWayForward player.label)
  known : ∀ label, player.advance graph ≠ .error (.unknownLabel label) ∧
    ∀ index, player.choose graph index ≠ .error (.unknownLabel label)

theorem At.served (h : At graph player node) (hgraph : graph.Playable) :
    Served graph player (node.continuation = .terminal) := by
  have hnode : node.Playable := hgraph.node_playable h.found
  refine ⟨?_, h.exists_view hnode, ?_, ?_, ?_, ?_, ?_, h.advance_terminal hnode, ?_⟩
  · obtain ⟨hmem, hlabel⟩ := Graph.mem_of_get?_eq_some h.found
    rw [← hlabel]
    exact Graph.label_mem_labels hmem
  · intro options hview
    obtain ⟨branches, hbranches, rfl⟩ := h.view_eq_menu_iff.mp hview
    obtain ⟨_, _, hcontinuation, _⟩ := branches?_eq_some_iff.mp hbranches
    rw [List.length_map]
    cases hnode with
    | menu hne =>
      cases hcontinuation
      exact List.length_pos_of_ne_nil hne
    | cover | bareCover | ending | silent | spoken => cases hcontinuation
  · intro options hview
    obtain ⟨branches, hbranches, _⟩ := h.view_eq_menu_iff.mp hview
    exact h.advance_of_branches? hbranches
  · intro options hview index
    obtain ⟨branches, hbranches, rfl⟩ := h.view_eq_menu_iff.mp hview
    rw [List.length_map]
    exact ⟨h.exists_choose hgraph.closed hbranches, choose_of_le h.found hbranches⟩
  · intro shown hview hmenu index
    exact choose_of_branches?_eq_none h.found (h.branches?_eq_none hview hmenu)
  · intro shown hview hmenu hterminal
    exact h.exists_advance hgraph.closed hnode (h.branches?_eq_none hview hmenu) hterminal
  · intro label
    exact ⟨h.advance_known hgraph.closed hnode label,
      fun index ↦ h.choose_known hgraph.closed label⟩

end Player

namespace Script

theorem playable_sceneNode (script : Script) (scene : Scene) :
    (script.sceneNode scene).Playable := by
  unfold sceneNode sceneContinuation
  by_cases hchoices : scene.choices = []
  · by_cases hlines : scene.lines = []
    · simpa [hchoices, hlines] using Node.Playable.silent rfl
    · simpa [hchoices, hlines] using Node.Playable.spoken hlines
  · simpa [hchoices] using Node.Playable.menu (by simpa using hchoices)

end Script

namespace Draft

variable {settings : Settings} {draft : Draft} {node : Node}

theorem playable_coverNode (settings : Settings) (draft : Draft) :
    (draft.normalize settings).coverNode.Playable := by
  rw [Script.coverNode, coverContinuation_normalize]
  cases draft.startLabel with
  | some target => exact .cover
  | none => exact .bareCover

theorem playable_compile (settings : Settings) (draft : Draft) :
    (draft.compile settings).Playable where
  closed := by
    intro target htarget
    obtain ⟨node, hnode, hmem⟩ := List.mem_flatMap.mp htarget
    exact mem_labels_compile.mpr (has_of_mem_targets hnode hmem)
  cover_mem := mem_labels_compile.mpr trivial
  nodes := by
    intro node hnode
    rcases Script.mem_nodes_compile.mp hnode with rfl | ⟨scene, _, rfl⟩ | ⟨card, _, rfl⟩
    · exact playable_coverNode settings draft
    · exact Script.playable_sceneNode _ scene
    · exact .ending

/-- Only the cover can lead nowhere, and it does where there is nothing to begin with. -/
theorem continuation_eq_terminal_iff (hnode : node ∈ (draft.compile settings).nodes) :
    node.continuation = .terminal ↔ node.label = .cover ∧ draft.ids = [] ∧ draft.ending = none := by
  rcases Script.mem_nodes_compile.mp hnode with rfl | ⟨scene, _, rfl⟩ | ⟨card, _, rfl⟩
  · have hstart : draft.startLabel = none ↔ draft.ids = [] ∧ draft.hasEnding = false :=
      startLabel_eq_none_iff
    rw [hasEnding, Option.isSome_eq_false_iff, Option.isNone_iff_eq_none] at hstart
    change (draft.normalize settings).coverContinuation = _ ↔ _
    rw [coverContinuation_normalize, ← hstart]
    cases draft.startLabel <;> simp [Script.coverNode]
  · refine iff_of_false ?_ (fun h ↦ Label.noConfusion h.1)
    exact Script.sceneContinuation_ne_terminal _ scene
  · exact iff_of_false (fun h ↦ Continuation.noConfusion h) (fun h ↦ Label.noConfusion h.1)

/-- A reader of a story is served at every moment, whatever was tried before. The story is stuck
only on its cover, and only if the draft names no scene and has no ending. -/
theorem served_run (settings : Settings) (draft : Draft) (moves : List Move) :
    Player.Served (draft.compile settings) (Player.run (draft.compile settings) moves)
      ((Player.run (draft.compile settings) moves).label = .cover ∧ draft.ids = [] ∧
        draft.ending = none) := by
  have hgraph := playable_compile settings draft
  obtain ⟨node, hnode⟩ := Player.exists_at_run hgraph.cover_mem moves
  obtain ⟨hmem, hlabel⟩ := Graph.mem_of_get?_eq_some hnode.found
  have hstuck := continuation_eq_terminal_iff hmem
  rw [hlabel] at hstuck
  rw [← hstuck]
  exact hnode.served hgraph

end Draft

end StoryGraph
