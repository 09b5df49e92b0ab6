import StoryGraph.Graph.Edge
import StoryGraph.Play.InPlace
import StoryGraph.Proofs.Progress

namespace StoryGraph.Player

/-- What an action comes to that goes to another place at once or fails without a trace. -/
def settled {α : Type} (player : Player) (answer : Player → α) :
    Except PlayError Player → EStateM.Result PlayError Player α
  | .ok next => .ok (answer next) next
  | .error error => .error error player

theorem settled_eq_ok_iff {α : Type} {player after : Player} {answer : Player → α}
    {result : Except PlayError Player} {told : α} :
    player.settled answer result = .ok told after ↔ result = .ok after ∧ told = answer after := by
  cases result with
  | ok next =>
    simp only [settled, EStateM.Result.ok.injEq, Except.ok.injEq]
    constructor
    · rintro ⟨rfl, rfl⟩
      exact ⟨rfl, rfl⟩
    · rintro ⟨rfl, rfl⟩
      exact ⟨rfl, rfl⟩
  | error error => simp [settled]

theorem settled_eq_error_iff {α : Type} {player after : Player} {answer : Player → α}
    {result : Except PlayError Player} {error : PlayError} :
    player.settled answer result = .error error after ↔
      result = .error error ∧ after = player := by
  cases result with
  | ok next => simp [settled]
  | error found => simp [settled, eq_comm]

namespace InPlace

theorem run_node (graph : Graph) (player : Player) :
    (node graph).run player = match player.node graph with
      | .ok node => .ok node player
      | .error error => .error error player := by
  simp only [node, EStateM.run_bind, EStateM.run_get, Player.node]
  cases graph.get? player.label <;> rfl

theorem run_jump (graph : Graph) (label : Label) (player : Player) :
    (jump graph label).run player = player.settled (fun _ ↦ ()) (Player.jump graph label) := by
  unfold jump Player.jump
  cases graph.contains label <;> rfl

theorem run_leave (graph : Graph) (node : Node) (player : Player) :
    (leave graph node).run player = player.settled (fun _ ↦ ()) (player.leave graph node) := by
  unfold leave Player.leave
  cases node.continuation with
  | afterLastLine target | proceed _ target => exact run_jump graph target player
  | menu | terminal => rfl

theorem run_advance (graph : Graph) (player : Player) :
    (advance graph).run player = player.settled (fun _ ↦ ()) (player.advance graph) := by
  rw [advance, EStateM.run_bind, run_node, Player.advance]
  cases player.node graph with
  | error error => rfl
  | ok node =>
    simp only [EStateM.run_bind, EStateM.run_get, advanceAt]
    split_ifs
    · rfl
    · cases node.continuation with
      | afterLastLine target => exact run_jump graph target player
      | proceed | menu | terminal => rfl
    · exact run_leave graph node player

theorem run_choose (graph : Graph) (index : Nat) (player : Player) :
    (choose graph index).run player = player.settled Player.label (player.choose graph index) := by
  rw [choose, EStateM.run_bind, run_node, Player.choose]
  cases player.node graph with
  | error error => rfl
  | ok node =>
    simp only [EStateM.run_bind, EStateM.run_get]
    cases player.branches? node with
    | none => rfl
    | some branches =>
      dsimp only
      cases branches[index]? with
      | none => rfl
      | some branch =>
        simp only [EStateM.run_bind, run_jump, Player.jump]
        split_ifs <;> rfl

/-- Writing as it goes, an action comes to what the move comes to that is taken as a whole. -/
theorem run_perform (graph : Graph) (m : Move) (player : Player) :
    (perform graph m).run player = player.settled (fun _ ↦ ()) (player.move graph m) := by
  cases m with
  | advance => exact run_advance graph player
  | jump label => exact run_jump graph label player
  | choose index =>
    rw [perform, EStateM.run_bind, run_choose, Player.move]
    cases player.choose graph index <;> rfl

theorem after_perform (graph : Graph) (m : Move) (player : Player) :
    after (perform graph m) player = player.step graph m := by
  rw [after, run_perform, step]
  cases player.move graph m <;> rfl

theorem play_eq_run (graph : Graph) (moves : List Move) : play graph moves = run graph moves := by
  simp only [play, run, after_perform]

end InPlace

variable {graph : Graph} {player next : Player} {node : Node} {label : Label} {index : Nat}

theorem choose_eq_noChoiceHere_iff (h : graph.get? player.label = some node) :
    player.choose graph index = .error (.noChoiceHere label) ↔
      label = player.label ∧ player.branches? node = none := by
  cases hbranches : player.branches? node with
  | none =>
    rw [choose_of_branches?_eq_none h hbranches]
    simp [eq_comm]
  | some branches =>
    cases hbranch : branches[index]? with
    | none =>
      rw [choose_of_le h hbranches (List.getElem?_eq_none_iff.mp hbranch)]
      simp
    | some branch =>
      rw [choose_of_branch h hbranches hbranch, jump]
      split_ifs <;> simp

theorem choose_eq_ok_iff {branches : List Branch} (h : graph.get? player.label = some node)
    (hbranches : player.branches? node = some branches) :
    player.choose graph index = .ok next ↔ ∃ branch, branches[index]? = some branch ∧
      branch.target ∈ graph.labels ∧ next = ⟨branch.target, 0⟩ := by
  cases hbranch : branches[index]? with
  | none =>
    rw [choose_of_le h hbranches (List.getElem?_eq_none_iff.mp hbranch)]
    simp
  | some branch =>
    rw [choose_of_branch h hbranches hbranch, jump_eq_ok_iff]
    simp

/-- The reader is at a node of the graph, and stands there as a reader can. Nothing is done by an
action that fails, a choice can be made exactly where the menu shows it and its label exists, and
without a jump the reader changes labels along the edges of the node only. -/
structure Sound (graph : Graph) (player : Player) (node : Node) : Prop where
  found : graph.get? player.label = some node
  cursor_le : player.cursor ≤ node.content.lines.length
  cursor_card : (∀ card, node.content ≠ .scene card) → player.cursor = 0
  atomic : ∀ m error after,
    (InPlace.perform graph m).run player = .error error after → after = player
  hidden : ∀ index label, (∃ after,
      (InPlace.choose graph index).run player = .error (.noChoiceHere label) after) ↔
    label = player.label ∧ ∀ options, player.view graph ≠ .ok (.menu options)
  chosen : ∀ options, player.view graph = .ok (.menu options) →
    ∃ branches, node.continuation = .menu branches ∧ options = branches.map Branch.caption ∧
      ∀ index target after, (InPlace.choose graph index).run player = .ok target after ↔
        index < options.length ∧ ∃ branch, branches[index]? = some branch ∧
          branch.target ∈ graph.labels ∧ target = branch.target ∧ after = ⟨branch.target, 0⟩
  led : ∀ m after, (∀ label, m ≠ .jump label) →
    (InPlace.perform graph m).run player = .ok () after → after.label ≠ player.label →
      ∃ edge ∈ node.edges, edge.source = player.label ∧ edge.target = after.label

theorem At.view_ne_menu_iff (h : At graph player node) :
    (∀ options, player.view graph ≠ .ok (.menu options)) ↔ player.branches? node = none := by
  rw [← not_exists, Option.eq_none_iff_forall_ne_some, ← not_exists]
  apply not_congr
  constructor
  · intro hview
    obtain ⟨options, hview⟩ := hview
    obtain ⟨branches, hbranches, _⟩ := h.view_eq_menu_iff.mp hview
    exact ⟨branches, hbranches⟩
  · intro hbranches
    obtain ⟨branches, hbranches⟩ := hbranches
    exact ⟨_, h.view_eq_menu_iff.mpr ⟨branches, hbranches, rfl⟩⟩

theorem At.exists_edge (h : At graph player node) {m : Move} (hm : ∀ label, m ≠ .jump label)
    (hmove : player.move graph m = .ok next) (hne : next.label ≠ player.label) :
    ∃ edge ∈ node.edges, edge.source = player.label ∧ edge.target = next.label := by
  rcases move_cases h.found hmove with ⟨rfl, _⟩ | ⟨label, _, rfl, htarget | hjump⟩
  · exact absurd rfl hne
  · obtain ⟨edge, hedge, hsource, htarget⟩ := Node.exists_edge_of_mem_targets htarget
    have hlabel : node.label = player.label := (Graph.mem_of_get?_eq_some h.found).2
    exact ⟨edge, hedge, hsource.trans hlabel, htarget⟩
  · exact absurd hjump (hm label)

theorem At.sound (h : At graph player node) : Sound graph player node where
  found := h.found
  cursor_le := h.cursor_le
  cursor_card := by
    intro hcard
    have hle := h.cursor_le
    cases hcontent : node.content with
    | scene card => exact absurd hcontent (hcard card)
    | cover | ending =>
      rw [hcontent] at hle
      exact Nat.le_zero.mp hle
  atomic := by
    intro m error after hrun
    rw [InPlace.run_perform, settled_eq_error_iff] at hrun
    exact hrun.2
  hidden := by
    intro index label
    simp only [InPlace.run_choose, settled_eq_error_iff, exists_and_left, exists_eq, and_true]
    rw [choose_eq_noChoiceHere_iff h.found, h.view_ne_menu_iff]
  chosen := by
    intro options hview
    obtain ⟨branches, hbranches, rfl⟩ := h.view_eq_menu_iff.mp hview
    obtain ⟨_, _, hcontinuation, _⟩ := branches?_eq_some_iff.mp hbranches
    refine ⟨branches, hcontinuation, rfl, ?_⟩
    intro index target after
    rw [InPlace.run_choose, settled_eq_ok_iff, choose_eq_ok_iff h.found hbranches]
    constructor
    · rintro ⟨⟨branch, hbranch, hmem, rfl⟩, rfl⟩
      obtain ⟨hlt, _⟩ := List.getElem?_eq_some_iff.mp hbranch
      exact ⟨by simpa using hlt, branch, hbranch, hmem, rfl, rfl⟩
    · rintro ⟨_, branch, hbranch, hmem, rfl, rfl⟩
      exact ⟨⟨branch, hbranch, hmem, rfl⟩, rfl⟩
  led := by
    intro m after hm hrun hne
    rw [InPlace.run_perform, settled_eq_ok_iff] at hrun
    exact h.exists_edge hm hrun.1 hne

theorem node_start (h : .cover ∉ graph.labels) :
    start.node graph = .error (.unknownLabel .cover) := by
  have hget : graph.get? .cover = none := by
    rw [Option.eq_none_iff_forall_ne_some]
    intro node hnode
    obtain ⟨hmem, hlabel⟩ := Graph.mem_of_get?_eq_some hnode
    exact h (hlabel ▸ Graph.label_mem_labels hmem)
  rw [Player.node, start, hget]

theorem advance_start (h : .cover ∉ graph.labels) :
    start.advance graph = .error (.unknownLabel .cover) := by
  rw [advance, node_start h]

theorem choose_start (h : .cover ∉ graph.labels) (index : Nat) :
    start.choose graph index = .error (.unknownLabel .cover) := by
  rw [choose, node_start h]

theorem jump_of_not_mem (h : label ∉ graph.labels) :
    jump graph label = .error (.unknownLabel label) := by
  rw [jump, if_neg (mt graph.contains_eq_true.mp h)]

/-- A move that does not succeed in jumping goes nowhere from the beginning. -/
theorem step_start (h : .cover ∉ graph.labels) {m : Move}
    (hm : ∀ label, m = .jump label → label ∉ graph.labels) : start.step graph m = start := by
  cases m with
  | advance => rw [step, move, advance_start h]
  | choose index => rw [step, move, choose_start h]
  | jump label => rw [step, move, jump_of_not_mem (hm label rfl)]

theorem run_of_not_mem (h : .cover ∉ graph.labels) {moves : List Move}
    (hmoves : ∀ label, .jump label ∈ moves → label ∉ graph.labels) : run graph moves = start := by
  unfold run
  induction moves with
  | nil => rfl
  | cons m moves ih =>
    have hm : ∀ label, m = .jump label → label ∉ graph.labels := by
      rintro label rfl
      exact hmoves label List.mem_cons_self
    rw [List.foldl_cons, step_start h hm]
    exact ih fun label hlabel ↦ hmoves label (List.mem_cons_of_mem m hlabel)

/-- Whatever is tried in place comes to what the moves come to. On a graph with a cover the reader
stays sound, whatever the graph is otherwise. Without a cover nothing works until a jump does, and
jumps work exactly to the labels of the graph. -/
theorem play_sound (graph : Graph) (moves : List Move) :
    InPlace.play graph moves = run graph moves ∧
      (∀ label player, (InPlace.jump graph label).run player =
        if label ∈ graph.labels then .ok () ⟨label, 0⟩
        else .error (.unknownLabel label) player) ∧
      (.cover ∈ graph.labels → ∃ node, Sound graph (InPlace.play graph moves) node) ∧
      (.cover ∉ graph.labels → (∀ label, .jump label ∈ moves → label ∉ graph.labels) →
        InPlace.play graph moves = start ∧
          start.view graph = .error (.unknownLabel .cover) ∧
          (InPlace.advance graph).run start = .error (.unknownLabel .cover) start ∧
          ∀ index, (InPlace.choose graph index).run start =
            .error (.unknownLabel .cover) start) := by
  refine ⟨InPlace.play_eq_run graph moves, ?_, ?_, ?_⟩
  · intro label player
    rw [InPlace.run_jump]
    split_ifs with h
    · rw [jump_of_mem h]
      rfl
    · rw [jump_of_not_mem h]
      rfl
  · intro h
    obtain ⟨node, hnode⟩ := exists_at_run h moves
    rw [InPlace.play_eq_run]
    exact ⟨node, hnode.sound⟩
  · intro h hmoves
    refine ⟨?_, ?_, ?_, ?_⟩
    · rw [InPlace.play_eq_run, run_of_not_mem h hmoves]
    · rw [view, node_start h]
    · rw [InPlace.run_advance, advance_start h]
      rfl
    · intro index
      rw [InPlace.run_choose, choose_start h]
      rfl

def strayGraph : Graph where
  nodes := [
    ⟨.cover, .scene ⟨none, none, [⟨none, "Here?"⟩]⟩,
      .menu [⟨3, "Out", .scene "nowhere"⟩, ⟨3, "On", .ending⟩]⟩,
    ⟨.cover, .cover ⟨none, "", "", "", ""⟩, .terminal⟩,
    ⟨.ending, .ending ⟨none, "", "", ""⟩, .menu [⟨0, "Back", .cover⟩]⟩]
  start := none

theorem play_sound_strayGraph :
    InPlace.play strayGraph [.advance, .choose 0, .choose 2] = ⟨.cover, 1⟩ ∧
      (InPlace.choose strayGraph 1).run ⟨.cover, 1⟩ = .ok .ending ⟨.ending, 0⟩ := by
  have hplay : InPlace.play strayGraph [.advance, .choose 0, .choose 2] = ⟨.cover, 1⟩ := by decide
  obtain ⟨_, _, hsound, _⟩ := play_sound strayGraph [.advance, .choose 0, .choose 2]
  obtain ⟨node, hnode⟩ := hsound (by decide)
  rw [hplay] at hnode
  obtain ⟨branches, hcontinuation, hoptions, hchosen⟩ := hnode.chosen ["Out", "On"] (by decide)
  have hbranches : branches = [⟨3, "Out", .scene "nowhere"⟩, ⟨3, "On", .ending⟩] := by
    have hget := hnode.found
    cases hget
    cases hcontinuation
    rfl
  have hbranch : branches[1]? = some ⟨3, "On", .ending⟩ := by
    rw [hbranches]
    rfl
  exact ⟨hplay, (hchosen 1 .ending _).mpr ⟨by decide, _, hbranch, by decide, rfl, rfl⟩⟩

end StoryGraph.Player
