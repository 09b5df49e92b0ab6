import StoryGraph.Play.Trace
import StoryGraph.Proofs.Playthrough

namespace StoryGraph

def Continuation.first? : Continuation → Option Label
  | afterLastLine target | proceed _ target => some target
  | menu branches => branches.head?.map Branch.target
  | terminal => none

theorem Continuation.mem_targets_of_first? {continuation : Continuation} {target : Label}
    (h : continuation.first? = some target) : target ∈ continuation.targets := by
  cases continuation with
  | afterLastLine _ | proceed _ _ =>
    cases h
    exact List.mem_singleton.mpr rfl
  | menu branches =>
    obtain ⟨branch, hbranch, rfl⟩ := Option.map_eq_some_iff.mp h
    exact List.mem_map.mpr ⟨branch, List.mem_of_head? hbranch, rfl⟩
  | terminal => cases h

namespace Node

def behind : Continuation → List View
  | .menu branches => [.menu (branches.map Branch.caption)]
  | .proceed caption _ => [.proceed caption]
  | .afterLastLine _ | .terminal => []

/-- What a node shows, from its beginning to its end. -/
def views (node : Node) : List View :=
  match node.content with
  | .cover card =>
    let cta := if node.continuation = .terminal then none else some card.cta
    [.cover card.title card.subtitle card.description cta]
  | .ending card => [.ending card.title card.message card.cta]
  | .scene card =>
    card.lines.map (fun line ↦ .line line.speaker line.text) ++ behind node.continuation

variable {node : Node}

theorem Playable.views_ne_nil (h : node.Playable) : node.views ≠ [] := by
  cases h with
  | cover | bareCover | ending => exact List.cons_ne_nil _ _
  | menu | silent => simp [views, behind]
  | spoken hlines => simpa [views, behind] using hlines

theorem Playable.exists_first? (h : node.Playable) (hterminal : node.continuation ≠ .terminal) :
    ∃ target, node.continuation.first? = some target := by
  cases h with
  | cover | ending | silent | spoken => exact ⟨_, rfl⟩
  | bareCover => exact absurd rfl hterminal
  | @menu _ _ branches hne =>
    obtain ⟨branch, rest, rfl⟩ := List.exists_cons_of_ne_nil hne
    exact ⟨branch.target, rfl⟩

end Node

namespace Player

variable {graph : Graph} {node : Node} {label target : Label} {cursor : Nat} {shown : View}
  {card : SceneCard}

theorem viewAt_of_getElem?_views (h : node.views[cursor]? = some shown) :
    viewAt ⟨label, cursor⟩ node = .ok shown := by
  obtain ⟨name, content, continuation⟩ := node
  cases content with
  | cover card | ending card =>
    cases cursor with
    | zero =>
      cases h
      rfl
    | succ cursor => cases h
  | scene card =>
    rw [Node.views, List.getElem?_append, List.length_map] at h
    split_ifs at h with hlt
    · rw [List.getElem?_map, List.getElem?_eq_getElem hlt] at h
      cases h
      simp only [viewAt, List.getElem?_eq_getElem hlt]
    · have hmem := List.mem_of_getElem? h
      simp only [viewAt, List.getElem?_eq_none (Nat.le_of_not_lt hlt)]
      cases continuation with
      | menu _ | proceed _ _ =>
        rw [List.mem_singleton.mp hmem]
      | afterLastLine _ | terminal => cases hmem

theorem proceed_of_isMenu_eq_false (h : shown.isMenu = false) (player : Player) :
    Player.proceed graph player shown = player.advance graph := by
  rw [Player.proceed, h]
  rfl

theorem isMenu_of_lt (hcontent : node.content = .scene card) (hlt : cursor < card.lines.length)
    (hshown : node.views[cursor]? = some shown) : shown.isMenu = false := by
  rw [Node.views, hcontent] at hshown
  simp only at hshown
  rw [List.getElem?_append_left (by simpa using hlt), List.getElem?_map,
    List.getElem?_eq_getElem hlt] at hshown
  cases hshown
  rfl

/-- Before its last view a label leads on to its next one. -/
theorem proceed_of_lt (hget : graph.get? label = some node) (hnode : node.Playable)
    (hshown : node.views[cursor]? = some shown) (hlt : cursor + 1 < node.views.length) :
    Player.proceed graph ⟨label, cursor⟩ shown = .ok ⟨label, cursor + 1⟩ := by
  cases hnode with
  | cover | bareCover | ending => simp [Node.views] at hlt
  | silent hlines => simp [Node.views, Node.behind, hlines] at hlt
  | @spoken _ card _ _ =>
    have hline : cursor + 1 < card.lines.length := by simpa [Node.views, Node.behind] using hlt
    rw [proceed_of_isMenu_eq_false (isMenu_of_lt rfl (Nat.lt_of_succ_lt hline) hshown)]
    exact advance_of_lt hget hline
  | @menu _ card _ _ =>
    have hline : cursor < card.lines.length := by simpa [Node.views, Node.behind] using hlt
    rw [proceed_of_isMenu_eq_false (isMenu_of_lt rfl hline hshown)]
    rcases Nat.lt_or_eq_of_le (Nat.succ_le_of_lt hline) with hnext | hlast
    · exact advance_of_lt hget hnext
    · exact advance_lastLine hget hlast nofun

theorem proceed_of_eq (hget : graph.get? label = some node) (hnode : node.Playable)
    (hshown : node.views[cursor]? = some shown) (hlast : cursor + 1 = node.views.length)
    (htarget : node.continuation.first? = some target) :
    Player.proceed graph ⟨label, cursor⟩ shown = jump graph target := by
  cases hnode with
  | bareCover => cases htarget
  | cover | ending =>
    cases htarget
    obtain rfl : cursor = 0 := by simpa [Node.views] using hlast
    cases hshown
    exact advance_of_lines_eq_nil hget rfl
  | silent hlines =>
    cases htarget
    obtain rfl : cursor = 0 := by simpa [Node.views, Node.behind, hlines] using hlast
    simp only [Node.views, Node.behind, hlines] at hshown
    cases hshown
    exact advance_of_lines_eq_nil hget hlines
  | @spoken _ card _ _ =>
    cases htarget
    have hline : cursor + 1 = card.lines.length := by simpa [Node.views, Node.behind] using hlast
    rw [proceed_of_isMenu_eq_false (isMenu_of_lt rfl (by omega) hshown)]
    exact advance_afterLastLine hget hline rfl
  | @menu name card branches hne =>
    obtain ⟨branch, hbranch, rfl⟩ := Option.map_eq_some_iff.mp htarget
    obtain rfl : cursor = card.lines.length := by simpa [Node.views, Node.behind] using hlast
    have hmenu : shown = .menu (branches.map Branch.caption) := by
      simpa [Node.views, Node.behind] using hshown.symm
    have hbranches : branches? ⟨label, card.lines.length⟩ ⟨name, .scene card, .menu branches⟩ =
        some branches := branches?_eq_some_iff.mpr ⟨card, rfl, rfl, Nat.le_refl _⟩
    rw [hmenu]
    exact choose_of_branch hget hbranches (List.head?_eq_getElem? ▸ hbranch)

variable {step fuel : Nat}

theorem view_of_getElem?_views (hget : graph.get? label = some node)
    (hshown : node.views[cursor]? = some shown) : view graph ⟨label, cursor⟩ = .ok shown := by
  have hat : Player.node graph ⟨label, cursor⟩ = .ok node := node_of_get? hget
  rw [view, hat]
  exact viewAt_of_getElem?_views hshown

theorem walk_of_lt (hget : graph.get? label = some node) (hnode : node.Playable)
    (hshown : node.views[cursor]? = some shown) (hlt : cursor + 1 < node.views.length) :
    walk graph step (fuel + 1) ⟨label, cursor⟩ =
      ⟨step, label, shown⟩ :: walk graph (step + 1) fuel ⟨label, cursor + 1⟩ := by
  rw [walk, view_of_getElem?_views hget hshown]
  simp only [proceed_of_lt hget hnode hshown hlt]

theorem walk_of_eq (hget : graph.get? label = some node) (hnode : node.Playable)
    (hshown : node.views[cursor]? = some shown) (hlast : cursor + 1 = node.views.length)
    (htarget : node.continuation.first? = some target) (hmem : target ∈ graph.labels) :
    walk graph step (fuel + 1) ⟨label, cursor⟩ =
      ⟨step, label, shown⟩ :: walk graph (step + 1) fuel ⟨target, 0⟩ := by
  rw [walk, view_of_getElem?_views hget hshown]
  simp only [proceed_of_eq hget hnode hshown hlast htarget, jump_of_mem hmem]

theorem walk_prefix (graph : Graph) (step : Nat) {fuel more : Nat} (h : fuel ≤ more)
    (player : Player) : walk graph step fuel player <+: walk graph step more player := by
  induction fuel generalizing step more player with
  | zero => exact List.nil_prefix
  | succ fuel ih =>
    obtain ⟨more, rfl⟩ := Nat.exists_eq_add_of_lt h
    rw [walk, walk]
    cases hview : player.view graph with
    | error error => exact List.prefix_rfl
    | ok view =>
      rw [List.prefix_cons_inj]
      cases player.proceed graph view with
      | error error => exact List.prefix_rfl
      | ok next => exact ih (step + 1) (by omega) next

end Player

end StoryGraph
