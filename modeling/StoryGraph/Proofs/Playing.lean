import StoryGraph.Play.Player
import StoryGraph.Proofs.Labels

namespace StoryGraph

theorem Graph.exists_get?_eq_some {graph : Graph} {label : Label} (h : label ∈ graph.labels) :
    ∃ node, graph.get? label = some node :=
  Option.isSome_iff_exists.mp (graph.contains_eq_true.mpr h)

namespace Player

def run (graph : Graph) (moves : List Move) : Player := moves.foldl (step graph) start

variable {graph : Graph} {player next : Player} {node : Node} {label : Label} {index : Nat}
  {branches : List Branch}

theorem node_of_get? (h : graph.get? player.label = some node) : player.node graph = .ok node := by
  simp only [Player.node, h]

theorem jump_eq_ok_iff :
    jump graph label = .ok next ↔ label ∈ graph.labels ∧ next = ⟨label, 0⟩ := by
  unfold jump
  by_cases h : label ∈ graph.labels
  · simp [graph.contains_eq_true.mpr h, h, eq_comm]
  · simp [h]

theorem jump_of_mem (h : label ∈ graph.labels) : jump graph label = .ok ⟨label, 0⟩ :=
  jump_eq_ok_iff.mpr ⟨h, rfl⟩

theorem branches?_eq_some_iff :
    player.branches? node = some branches ↔ ∃ card, node.content = .scene card ∧
      node.continuation = .menu branches ∧ card.lines.length ≤ player.cursor := by
  obtain ⟨_, content, continuation⟩ := node
  cases content <;> cases continuation <;> simp [branches?, and_comm]

theorem viewAt_eq_menu_iff {options : List String} :
    player.viewAt node = .ok (.menu options) ↔
      ∃ branches, player.branches? node = some branches ∧
        options = branches.map Branch.caption := by
  obtain ⟨_, content, continuation⟩ := node
  simp only [branches?_eq_some_iff]
  cases content with
  | cover card => simp [viewAt]
  | ending card => simp [viewAt]
  | scene card =>
    simp only [viewAt]
    by_cases hcursor : card.lines.length ≤ player.cursor
    · cases continuation <;> simp [hcursor, eq_comm]
    · have hlt : player.cursor < card.lines.length := by omega
      simp [hcursor, List.getElem?_eq_getElem hlt]

theorem choose_of_branch {branch : Branch} (h : graph.get? player.label = some node)
    (hbranches : player.branches? node = some branches) (hbranch : branches[index]? = some branch) :
    player.choose graph index = jump graph branch.target := by
  simp only [choose, node_of_get? h, hbranches, hbranch]

theorem choose_of_le (h : graph.get? player.label = some node)
    (hbranches : player.branches? node = some branches) (hle : branches.length ≤ index) :
    player.choose graph index = .error (.invalidChoice index) := by
  simp only [choose, node_of_get? h, hbranches, List.getElem?_eq_none hle]

theorem choose_of_branches?_eq_none (h : graph.get? player.label = some node)
    (hbranches : player.branches? node = none) :
    player.choose graph index = .error (.noChoiceHere player.label) := by
  simp only [choose, node_of_get? h, hbranches]

theorem advance_of_lt (h : graph.get? player.label = some node)
    (hlt : player.cursor + 1 < node.content.lines.length) :
    player.advance graph = .ok ⟨player.label, player.cursor + 1⟩ := by
  simp only [advance, node_of_get? h, advanceAt, if_pos hlt]

theorem advance_afterLastLine (h : graph.get? player.label = some node)
    (heq : player.cursor + 1 = node.content.lines.length)
    (hcontinuation : node.continuation = .afterLastLine label) :
    player.advance graph = jump graph label := by
  have hnot : ¬ player.cursor + 1 < node.content.lines.length := by omega
  have hlt : player.cursor < node.content.lines.length := by omega
  simp only [advance, node_of_get? h, advanceAt, if_neg hnot, if_pos hlt, hcontinuation]

/-- A last line that does not lead on by itself is put behind. -/
theorem advance_lastLine (h : graph.get? player.label = some node)
    (heq : player.cursor + 1 = node.content.lines.length)
    (hcontinuation : ∀ target, node.continuation ≠ .afterLastLine target) :
    player.advance graph = .ok ⟨player.label, player.cursor + 1⟩ := by
  have hnot : ¬ player.cursor + 1 < node.content.lines.length := by omega
  have hlt : player.cursor < node.content.lines.length := by omega
  rw [heq]
  simp only [advance, node_of_get? h, advanceAt, if_neg hnot, if_pos hlt]

theorem advance_of_le (h : graph.get? player.label = some node)
    (hle : node.content.lines.length ≤ player.cursor) :
    player.advance graph = player.leave graph node := by
  have hnot : ¬ player.cursor + 1 < node.content.lines.length := by omega
  have hnot' : ¬ player.cursor < node.content.lines.length := by omega
  simp only [advance, node_of_get? h, advanceAt, if_neg hnot, if_neg hnot']

theorem leave_eq_ok_iff : player.leave graph node = .ok next ↔
    ∃ target, (node.continuation = .afterLastLine target ∨
      ∃ caption, node.continuation = .proceed caption target) ∧
      target ∈ graph.labels ∧ next = ⟨target, 0⟩ := by
  unfold leave
  cases node.continuation <;> simp [jump_eq_ok_iff]

/-- A reader is at a node, no further than behind its last line. A last line that leads on by itself
is never behind. -/
structure At (graph : Graph) (player : Player) (node : Node) : Prop where
  found : graph.get? player.label = some node
  cursor_le : player.cursor ≤ node.content.lines.length
  cursor_lt : ∀ target, node.continuation = .afterLastLine target → node.content.lines ≠ [] →
    player.cursor < node.content.lines.length

/-- What a move that succeeds comes to: the next line, or the beginning of a label. -/
theorem move_cases {m : Move} (h : graph.get? player.label = some node)
    (hmove : player.move graph m = .ok next) :
    (next = ⟨player.label, player.cursor + 1⟩ ∧
      player.cursor + 1 ≤ node.content.lines.length ∧
      ∀ target, node.continuation = .afterLastLine target →
        player.cursor + 1 < node.content.lines.length) ∨
    ∃ label ∈ graph.labels, next = ⟨label, 0⟩ ∧
      (label ∈ node.continuation.targets ∨ m = .jump label) := by
  cases m with
  | advance =>
    change player.advance graph = .ok next at hmove
    rcases Nat.lt_trichotomy (player.cursor + 1) node.content.lines.length with hlt | heq | hgt
    · rw [advance_of_lt h hlt] at hmove
      cases hmove
      exact .inl ⟨rfl, by omega, fun _ _ ↦ hlt⟩
    · by_cases hcontinuation : ∃ target, node.continuation = .afterLastLine target
      · obtain ⟨target, hcontinuation⟩ := hcontinuation
        rw [advance_afterLastLine h heq hcontinuation, jump_eq_ok_iff] at hmove
        refine .inr ⟨target, hmove.1, hmove.2, .inl ?_⟩
        simp [hcontinuation, Continuation.targets]
      · rw [advance_lastLine h heq (not_exists.mp hcontinuation)] at hmove
        cases hmove
        exact .inl ⟨rfl, by omega, fun target htarget ↦ absurd ⟨target, htarget⟩ hcontinuation⟩
    · rw [advance_of_le h (by omega), leave_eq_ok_iff] at hmove
      obtain ⟨target, hcontinuation, hmem, rfl⟩ := hmove
      refine .inr ⟨target, hmem, rfl, .inl ?_⟩
      rcases hcontinuation with hcontinuation | ⟨_, hcontinuation⟩ <;>
        simp [hcontinuation, Continuation.targets]
  | choose index =>
    change player.choose graph index = .ok next at hmove
    cases hbranches : player.branches? node with
    | none =>
      rw [choose_of_branches?_eq_none h hbranches] at hmove
      cases hmove
    | some branches =>
      obtain ⟨card, _, hcontinuation, _⟩ := branches?_eq_some_iff.mp hbranches
      cases hbranch : branches[index]? with
      | none =>
        rw [choose_of_le h hbranches (List.getElem?_eq_none_iff.mp hbranch)] at hmove
        cases hmove
      | some branch =>
        rw [choose_of_branch h hbranches hbranch, jump_eq_ok_iff] at hmove
        refine .inr ⟨branch.target, hmove.1, hmove.2, .inl ?_⟩
        rw [hcontinuation]
        exact List.mem_map.mpr ⟨branch, List.mem_of_getElem? hbranch, rfl⟩
  | jump label =>
    obtain ⟨hmem, heq⟩ := jump_eq_ok_iff.mp hmove
    exact .inr ⟨label, hmem, heq, .inr rfl⟩

theorem exists_at_of_mem (h : label ∈ graph.labels) : ∃ node, At graph ⟨label, 0⟩ node := by
  obtain ⟨node, hnode⟩ := Graph.exists_get?_eq_some h
  exact ⟨node, hnode, Nat.zero_le _, fun _ _ hlines ↦ List.length_pos_of_ne_nil hlines⟩

theorem At.exists_step (h : At graph player node) (m : Move) :
    ∃ node, At graph (player.step graph m) node := by
  unfold step
  cases hmove : player.move graph m with
  | error error => exact ⟨node, h⟩
  | ok next =>
    rcases move_cases h.found hmove with ⟨rfl, hle, hlt⟩ | ⟨label, hmem, rfl, _⟩
    · exact ⟨node, h.found, hle, fun target hcontinuation _ ↦ hlt target hcontinuation⟩
    · exact exists_at_of_mem hmem

theorem At.exists_foldl (h : At graph player node) (moves : List Move) :
    ∃ node, At graph (moves.foldl (step graph) player) node := by
  induction moves generalizing player node with
  | nil => exact ⟨node, h⟩
  | cons m moves ih =>
    obtain ⟨node', h'⟩ := h.exists_step m
    exact ih h'

/-- Whatever is tried in a graph that has a cover, the reader stays at one of its nodes. -/
theorem exists_at_run (h : .cover ∈ graph.labels) (moves : List Move) :
    ∃ node, At graph (run graph moves) node := by
  obtain ⟨node, hnode⟩ := exists_at_of_mem h
  exact hnode.exists_foldl moves

end Player

end StoryGraph
