import StoryGraph.Proofs.Findings
import StoryGraph.Proofs.Progress
import StoryGraph.Proofs.Search

namespace StoryGraph

namespace Player

variable {graph : Graph} {player next last : Player} {node : Node} {label target : Label}
  {index : Nat}

/-- Moves without a jump lead from one state to another. -/
def Leads (graph : Graph) (player next : Player) : Prop :=
  ∃ moves : List Move, (∀ other, .jump other ∉ moves) ∧ moves.foldl (step graph) player = next

theorem Leads.refl (graph : Graph) (player : Player) : Leads graph player player :=
  ⟨[], nofun, rfl⟩

theorem Leads.trans (h : Leads graph player next) (h' : Leads graph next last) :
    Leads graph player last := by
  obtain ⟨moves, hmoves, rfl⟩ := h
  obtain ⟨moves', hmoves', rfl⟩ := h'
  refine ⟨moves ++ moves', ?_, List.foldl_append⟩
  intro other hmem
  rcases List.mem_append.mp hmem with hmem | hmem
  · exact hmoves other hmem
  · exact hmoves' other hmem

theorem Leads.of_advance (h : player.advance graph = .ok next) : Leads graph player next :=
  ⟨[.advance], by simp, by simp [step, move, h]⟩

theorem Leads.of_choose (h : player.choose graph index = .ok next) : Leads graph player next :=
  ⟨[.choose index], by simp, by simp [step, move, h]⟩

theorem leads_line (h : graph.get? label = some node) {line : Nat}
    (hline : line < node.content.lines.length) : Leads graph ⟨label, 0⟩ ⟨label, line⟩ := by
  induction line with
  | zero => exact .refl graph _
  | succ line ih => exact (ih (by omega)).trans (.of_advance (advance_of_lt h hline))

theorem leads_behind (h : graph.get? label = some node)
    (hcontinuation : ∀ target, node.continuation ≠ .afterLastLine target) :
    Leads graph ⟨label, 0⟩ ⟨label, node.content.lines.length⟩ := by
  cases hlength : node.content.lines.length with
  | zero => exact .refl graph _
  | succ line =>
    have hlast : Leads graph ⟨label, 0⟩ ⟨label, line⟩ := leads_line h (by omega)
    exact hlast.trans (.of_advance (advance_lastLine h hlength.symm hcontinuation))

theorem advance_of_lines_eq_nil (h : graph.get? label = some node)
    (hlines : node.content.lines = []) :
    advance graph ⟨label, 0⟩ = leave graph ⟨label, 0⟩ node :=
  advance_of_le h (by simp [hlines])

/-- Every way on can be taken from the beginning of a label. -/
theorem leads_target (h : graph.get? label = some node) (hnode : node.Playable)
    (htarget : target ∈ node.continuation.targets) (hmem : target ∈ graph.labels) :
    Leads graph ⟨label, 0⟩ ⟨target, 0⟩ := by
  cases hnode with
  | bareCover => cases htarget
  | cover | ending =>
    cases List.mem_singleton.mp htarget
    exact .of_advance ((advance_of_lines_eq_nil h rfl).trans (jump_of_mem hmem))
  | silent hlines =>
    cases List.mem_singleton.mp htarget
    exact .of_advance ((advance_of_lines_eq_nil h hlines).trans (jump_of_mem hmem))
  | spoken hlines =>
    cases List.mem_singleton.mp htarget
    obtain ⟨line, hline⟩ := Nat.exists_eq_add_one_of_ne_zero (mt List.length_eq_zero_iff.mp hlines)
    have hlast : Leads graph ⟨label, 0⟩ ⟨label, line⟩ :=
      leads_line h (Nat.lt_of_succ_le (Nat.le_of_eq hline.symm))
    exact hlast.trans
      (.of_advance ((advance_afterLastLine h hline.symm rfl).trans (jump_of_mem hmem)))
  | @menu name card branches _ =>
    obtain ⟨branch, hbranch, rfl⟩ := List.mem_map.mp htarget
    obtain ⟨index, hindex⟩ := List.mem_iff_getElem?.mp hbranch
    have hshown : branches? ⟨label, card.lines.length⟩ ⟨name, .scene card, .menu branches⟩ =
        some branches := branches?_eq_some_iff.mpr ⟨card, rfl, rfl, Nat.le_refl _⟩
    exact (leads_behind h nofun).trans
      (.of_choose ((choose_of_branch h hshown hindex).trans (jump_of_mem hmem)))

/-- Some moves without a jump bring the reader from the beginning to the label. -/
def CanReach (graph : Graph) (label : Label) : Prop :=
  ∃ moves : List Move, (∀ other, .jump other ∉ moves) ∧ (run graph moves).label = label

theorem leads_of_reaches (hgraph : graph.Playable) (h : graph.Reaches label) :
    Leads graph start ⟨label, 0⟩ := by
  induction h with
  | cover => exact .refl graph start
  | step _ hsuccessor ih =>
    obtain ⟨node, hnode, htarget, hmem⟩ := Graph.mem_successors_iff.mp hsuccessor
    exact ih.trans (leads_target hnode (hgraph.node_playable hnode) htarget hmem)

theorem reaches_step {m : Move} (hnode : At graph player node) (h : graph.Reaches player.label)
    (hjump : ∀ other, m ≠ .jump other) : graph.Reaches (player.step graph m).label := by
  unfold step
  cases hmove : player.move graph m with
  | error error => exact h
  | ok next =>
    rcases move_cases hnode.found hmove with ⟨rfl, _⟩ | ⟨label, hmem, rfl, htarget | hm⟩
    · exact h
    · exact h.step (Graph.mem_successors_iff.mpr ⟨node, hnode.found, htarget, hmem⟩)
    · exact absurd hm (hjump label)

theorem reaches_foldl {moves : List Move} (hnode : At graph player node)
    (h : graph.Reaches player.label) (hmoves : ∀ other, .jump other ∉ moves) :
    graph.Reaches (moves.foldl (step graph) player).label := by
  induction moves generalizing player node with
  | nil => exact h
  | cons m moves ih =>
    have hjump : ∀ other, m ≠ .jump other := by
      intro other heq
      exact hmoves other (heq ▸ List.mem_cons_self)
    obtain ⟨node', hnode'⟩ := hnode.exists_step m
    exact ih hnode' (reaches_step hnode h hjump)
      fun other hmem ↦ hmoves other (List.mem_cons_of_mem _ hmem)

theorem canReach_iff_reaches (hgraph : graph.Playable) :
    CanReach graph label ↔ graph.Reaches label := by
  constructor
  · intro h
    obtain ⟨moves, hmoves, rfl⟩ := h
    obtain ⟨node, hnode⟩ := exists_at_of_mem hgraph.cover_mem
    exact reaches_foldl hnode (.cover (graph.contains_eq_true.mpr hgraph.cover_mem)) hmoves
  · intro h
    obtain ⟨moves, hmoves, heq⟩ := leads_of_reaches hgraph h
    exact ⟨moves, hmoves, congrArg Player.label heq⟩

end Player

def Issue.unreached? : Issue → Option String
  | unreachableScene scene => some scene
  | _ => none

theorem Issue.part_of_unreached? {issue : Issue} {scene : String}
    (h : issue.unreached? = some scene) : issue.part = .reachability := by
  cases issue <;> cases h
  rfl

namespace Draft

variable {settings : Settings} {draft : Draft} {id : String}

theorem filterMap_unreached?_lint (settings : Settings) (draft : Draft) :
    (draft.lint settings).issues.filterMap Issue.unreached? =
      ((draft.compile settings).labels.filterMap Label.sceneId?).filter
        fun id ↦ .scene id ∉ (draft.compile settings).reachable := by
  have hreachability : (draft.issuesOf settings .reachability).filterMap Issue.unreached? =
      (draft.compile settings).unreachable.filterMap Label.sceneId? := by
    rw [issuesOf, reachabilityIssues, List.filterMap_filterMap]
    apply List.filterMap_congr
    intro label _
    cases label <;> rfl
  have hscenes : (draft.compile settings).unreachable.filterMap Label.sceneId? =
      ((draft.compile settings).labels.filterMap Label.sceneId?).filter
        fun id ↦ .scene id ∉ (draft.compile settings).reachable := by
    rw [Graph.unreachable, List.filterMap_filter, List.filter_filterMap]
    apply List.filterMap_congr
    intro label _
    cases label <;> simp [Label.sceneId?, Option.filter]
  rw [filterMap_issues_lint fun _ _ ↦ Issue.part_of_unreached?, hreachability, hscenes]

theorem unreachableScene_mem_lint_iff :
    .unreachableScene id ∈ (draft.lint settings).issues ↔
      .scene id ∈ (draft.compile settings).labels ∧
        .scene id ∉ (draft.compile settings).reachable := by
  have hmem : .unreachableScene id ∈ (draft.lint settings).issues ↔
      id ∈ (draft.lint settings).issues.filterMap Issue.unreached? := by
    rw [List.mem_filterMap]
    constructor
    · intro h
      exact ⟨_, h, rfl⟩
    · intro h
      obtain ⟨issue, hissue, hid⟩ := h
      cases issue <;> cases hid
      exact hissue
  rw [hmem, filterMap_unreached?_lint, List.mem_filter, List.mem_filterMap]
  constructor
  · intro h
    obtain ⟨⟨label, hlabel, hid⟩, hunreached⟩ := h
    cases label <;> cases hid
    exact ⟨hlabel, by simpa using hunreached⟩
  · intro h
    obtain ⟨hlabel, hunreached⟩ := h
    exact ⟨⟨_, hlabel, rfl⟩, by simpa using hunreached⟩

/-- The search finds the labels that a reader can play to without jumping. A report names the scenes
that nobody can play to, each of them once and in the order of the graph. -/
theorem reachable_iff_canReach (settings : Settings) (draft : Draft) :
    (∀ label, label ∈ (draft.compile settings).reachable ↔
        Player.CanReach (draft.compile settings) label) ∧
      (∀ id, .unreachableScene id ∈ (draft.lint settings).issues ↔
        .scene id ∈ (draft.compile settings).labels ∧
          ¬ Player.CanReach (draft.compile settings) (.scene id)) ∧
      (∀ id, .unreachableScene id ∈ (draft.lint settings).issues →
        (draft.lint settings).issues.count (.unreachableScene id) = 1) ∧
      ((draft.lint settings).issues.filterMap Issue.unreached?).Sublist
        ((draft.compile settings).labels.filterMap Label.sceneId?) := by
  have hreachable : ∀ label, label ∈ (draft.compile settings).reachable ↔
      Player.CanReach (draft.compile settings) label := by
    intro label
    rw [Graph.mem_reachable_iff, Player.canReach_iff_reaches (playable_compile settings draft)]
  refine ⟨hreachable, ?_, ?_, ?_⟩
  · intro id
    rw [unreachableScene_mem_lint_iff, hreachable]
  · intro id h
    exact List.count_eq_one_of_mem (nodup_issues_lint settings draft) h
  · rw [filterMap_unreached?_lint]
    exact List.filter_sublist

end Draft

end StoryGraph
