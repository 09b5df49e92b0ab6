import Mathlib.Data.List.Destutter
import Mathlib.Data.List.Range
import StoryGraph.Graph.Edge
import StoryGraph.Proofs.Showings

namespace StoryGraph

section Collapse

variable {α ι : Type} {as : List α} {R : α → α → Prop} {count : Nat}

def runs (name : ι → α) (size : ι → Nat) (items : List ι) : List α :=
  items.flatMap fun item ↦ List.replicate (size item) (name item)

theorem runs_cons (name : ι → α) (size : ι → Nat) (item : ι) (items : List ι) :
    runs name size (item :: items) =
      List.replicate (size item) (name item) ++ runs name size items := List.flatMap_cons

theorem length_runs_cons (name : ι → α) (size : ι → Nat) (item : ι) (items : List ι) :
    (runs name size (item :: items)).length = size item + (runs name size items).length := by
  rw [runs_cons, List.length_append, List.length_replicate]

variable [DecidableEq α]

theorem exists_collapse_cons (a : α) (as : List α) : ∃ bs, collapse (a :: as) = a :: bs := by
  rw [collapse]
  cases collapse as with
  | nil => exact ⟨[], rfl⟩
  | cons b bs =>
    by_cases h : a = b
    · exact ⟨bs, by simp [h]⟩
    · exact ⟨b :: bs, by simp [h]⟩

theorem collapse_cons_cons (a b : α) (as : List α) :
    collapse (a :: b :: as) = if a = b then collapse (b :: as) else a :: collapse (b :: as) := by
  obtain ⟨bs, hbs⟩ := exists_collapse_cons b as
  rw [collapse, hbs]

theorem collapse_eq_destutter (as : List α) : collapse as = as.destutter (· ≠ ·) := by
  cases as with
  | nil => rfl
  | cons a as =>
    rw [List.destutter_cons']
    induction as generalizing a with
    | nil => rfl
    | cons b as ih =>
      rw [collapse_cons_cons, List.destutter'_cons, ← ih b, ← ih a]
      by_cases h : a = b <;> simp [h]

theorem collapse_replicate_append (a : α) (count : Nat) (as : List α) :
    collapse (List.replicate (count + 1) a ++ as) = collapse (a :: as) := by
  induction count with
  | zero => rfl
  | succ count ih =>
    rw [← ih, List.replicate_succ, List.cons_append, List.replicate_succ, List.cons_append,
      collapse_cons_cons, if_pos rfl]

theorem isChain_collapse (h : as.IsChain R) : (collapse as).IsChain R := by
  induction h with
  | nil => exact .nil
  | singleton a => exact .singleton a
  | @cons_cons a b as hab _ ih =>
    rw [collapse_cons_cons]
    split_ifs
    · exact ih
    · obtain ⟨bs, hbs⟩ := exists_collapse_cons b as
      rw [hbs] at ih ⊢
      exact .cons_cons hab ih

/-- A beginning of the runs collapses to the names of the items whose runs have begun. -/
theorem exists_collapse_take_runs (name : ι → α) {size : ι → Nat} (hsize : ∀ item, 0 < size item)
    {items : List ι} (hcount : count ≤ (runs name size items).length) :
    ∃ begun ≤ items.length, count ≤ (runs name size (items.take begun)).length ∧
      (∀ fewer < begun, (runs name size (items.take fewer)).length < count) ∧
      collapse ((runs name size items).take count) = collapse ((items.take begun).map name) := by
  induction items generalizing count with
  | nil => exact ⟨0, le_rfl, hcount, nofun, by simp [runs]⟩
  | cons item items ih =>
    obtain ⟨more, hmore⟩ := Nat.exists_eq_add_one_of_ne_zero (hsize item).ne'
    rw [length_runs_cons] at hcount
    rcases Nat.eq_zero_or_pos count with rfl | hpos
    · exact ⟨0, Nat.zero_le _, Nat.zero_le _, nofun, rfl⟩
    rcases Nat.lt_or_ge (size item) count with hlt | hle
    · -- The first run is over, and what is left is a beginning of the others.
      have hleft : count - size item ≤ (runs name size items).length := by omega
      obtain ⟨begun, hbegun, hlength, hfewer, hcollapse⟩ := ih hleft
      refine ⟨begun + 1, Nat.succ_le_succ hbegun, ?_, ?_, ?_⟩
      · rw [List.take_succ_cons, length_runs_cons]
        omega
      · intro fewer hlt'
        cases fewer with
        | zero => exact hpos
        | succ fewer =>
          have := hfewer fewer (Nat.lt_of_succ_lt_succ hlt')
          rw [List.take_succ_cons, length_runs_cons]
          omega
      · rw [runs_cons, List.take_append, List.take_of_length_le (by simpa using hlt.le),
          List.length_replicate, hmore, collapse_replicate_append, ← hmore, List.take_succ_cons,
          List.map_cons, collapse, collapse, hcollapse]
    · obtain ⟨most, rfl⟩ := Nat.exists_eq_add_one_of_ne_zero hpos.ne'
      refine ⟨1, by simp, ?_, ?_, ?_⟩
      · rw [List.take_succ_cons, length_runs_cons]
        omega
      · intro fewer hfewer
        obtain rfl : fewer = 0 := by omega
        exact hpos
      · rw [runs_cons, List.take_append_of_le_length (by simpa using hle), List.take_replicate,
          Nat.min_eq_left hle]
        exact (congrArg collapse (List.append_nil _).symm).trans
          (collapse_replicate_append (name item) most [])

end Collapse

namespace Graph

variable {graph : Graph} {label other : Label} {node : Node} {position entered : Nat}

def Follows (graph : Graph) (label other : Label) : Prop :=
  ∃ node, graph.get? label = some node ∧ node.continuation.first? = some other

/-- The labels that a reader enters who always takes the first choice. A reader who cannot go on
stays. -/
def route (graph : Graph) : Nat → Label
  | 0 => .cover
  | entered + 1 =>
    ((graph.get? (graph.route entered)).bind fun node ↦ node.continuation.first?).getD
      (graph.route entered)

def showing (graph : Graph) (label : Label) : List (Label × View) :=
  ((graph.get? label).map fun node ↦ node.views.map (label, ·)).getD []

/-- What so many labels of the route show, one after the other. -/
def playthrough (graph : Graph) (entered : Nat) : List (Label × View) :=
  (List.range entered).flatMap fun position ↦ graph.showing (graph.route position)

theorem Follows.exists_edge (h : graph.Follows label other) :
    ∃ edge ∈ graph.edges, edge.source = label ∧ edge.target = other := by
  obtain ⟨node, hget, hfirst⟩ := h
  obtain ⟨hnode, rfl⟩ := mem_of_get?_eq_some hget
  obtain ⟨edge, hedge, hends⟩ :=
    Node.exists_edge_of_mem_targets (Continuation.mem_targets_of_first? hfirst)
  exact ⟨edge, List.mem_flatMap.mpr ⟨node, hnode, hedge⟩, hends⟩

theorem Follows.mem_labels (h : graph.Follows label other) : label ∈ graph.labels := by
  obtain ⟨node, hget, _⟩ := h
  obtain ⟨hnode, rfl⟩ := mem_of_get?_eq_some hget
  exact label_mem_labels hnode

theorem showing_of_get? (h : graph.get? label = some node) :
    graph.showing label = node.views.map (label, ·) := by
  rw [showing, h]
  rfl

theorem Follows.route_succ (h : graph.Follows (graph.route position) other) :
    graph.route (position + 1) = other := by
  obtain ⟨node, hget, hfirst⟩ := h
  rw [route, hget, Option.bind_some, hfirst, Option.getD_some]

theorem Playable.exists_follows (h : graph.Playable)
    (hstuck : ∀ node ∈ graph.nodes, node.continuation ≠ .terminal)
    (hlabel : label ∈ graph.labels) : ∃ other ∈ graph.labels, graph.Follows label other := by
  obtain ⟨node, hget⟩ := exists_get?_eq_some hlabel
  have hnode := (mem_of_get?_eq_some hget).1
  obtain ⟨other, hfirst⟩ := (h.nodes node hnode).exists_first? (hstuck node hnode)
  have hmem := h.closed.target_mem hget (Continuation.mem_targets_of_first? hfirst)
  exact ⟨other, hmem, node, hget, hfirst⟩

theorem Playable.showing_pos (h : graph.Playable) (hfollows : graph.Follows label other) :
    0 < (graph.showing label).length := by
  obtain ⟨node, hget, _⟩ := hfollows
  rw [showing_of_get? hget, List.length_map]
  exact List.length_pos_of_ne_nil (h.node_playable hget).views_ne_nil

theorem Playable.follows_route (h : graph.Playable)
    (hstuck : ∀ node ∈ graph.nodes, node.continuation ≠ .terminal) (position : Nat) :
    graph.Follows (graph.route position) (graph.route (position + 1)) := by
  have hmem : graph.route position ∈ graph.labels := by
    induction position with
    | zero => exact h.cover_mem
    | succ position ih =>
      obtain ⟨other, hother, hfollows⟩ := h.exists_follows hstuck ih
      rw [hfollows.route_succ]
      exact hother
  obtain ⟨other, _, hfollows⟩ := h.exists_follows hstuck hmem
  rw [hfollows.route_succ]
  exact hfollows

end Graph

def TraceStep.numbered (first : Nat) (shown : List (Label × View)) : List TraceStep :=
  shown.mapIdx fun count entry ↦ ⟨first + count, entry.1, entry.2⟩

theorem TraceStep.numbered_cons (first : Nat) (entry : Label × View) (shown : List (Label × View)) :
    numbered first (entry :: shown) =
      ⟨first, entry.1, entry.2⟩ :: numbered (first + 1) shown := by
  have hcount : (fun count (entry : Label × View) ↦
      TraceStep.mk (first + (count + 1)) entry.1 entry.2) =
      fun count entry ↦ ⟨first + 1 + count, entry.1, entry.2⟩ := by
    funext count entry
    rw [Nat.add_assoc, Nat.add_comm 1]
  rw [numbered, List.mapIdx_cons, hcount]
  rfl

namespace Graph

variable {graph : Graph} {node : Node} {cursor position : Nat}

def stretch (graph : Graph) (position blocks : Nat) : List (Label × View) :=
  (List.range' position blocks).flatMap fun position ↦ graph.showing (graph.route position)

theorem playthrough_eq_stretch (graph : Graph) (entered : Nat) :
    graph.playthrough entered = graph.stretch 0 entered := by
  rw [playthrough, stretch, List.range_eq_range']

theorem stretch_succ (graph : Graph) (position blocks : Nat) :
    graph.stretch position (blocks + 1) =
      graph.showing (graph.route position) ++ graph.stretch (position + 1) blocks := by
  rw [stretch, List.range'_succ, List.flatMap_cons]
  rfl

theorem drop_stretch_of_lt (hget : graph.get? (graph.route position) = some node)
    (hcursor : cursor < node.views.length) (blocks : Nat) :
    (graph.stretch position (blocks + 1)).drop cursor =
      (graph.route position, node.views[cursor]) ::
        (graph.stretch position (blocks + 1)).drop (cursor + 1) := by
  have hlength : cursor < (graph.stretch position (blocks + 1)).length := by
    rw [stretch_succ, showing_of_get? hget, List.length_append, List.length_map]
    omega
  have hentry : (graph.stretch position (blocks + 1))[cursor] =
      (graph.route position, node.views[cursor]) := by
    simp only [stretch_succ, showing_of_get? hget]
    rw [List.getElem_append_left (by simpa using hcursor), List.getElem_map]
  rw [List.drop_eq_getElem_cons hlength, hentry]

theorem drop_stretch_of_eq (hget : graph.get? (graph.route position) = some node)
    (hcursor : cursor = node.views.length) (blocks : Nat) :
    (graph.stretch position (blocks + 1)).drop cursor = graph.stretch (position + 1) blocks := by
  rw [stretch_succ, showing_of_get? hget]
  exact List.drop_left' (by rw [List.length_map, hcursor])

end Graph

namespace Player

variable {graph : Graph} {cursor position step fuel blocks : Nat}

/-- From any view on the route, a trace shows this view and those behind it. -/
theorem walk_route (hgraph : graph.Playable)
    (hroute : ∀ position, graph.Follows (graph.route position) (graph.route (position + 1)))
    (hcursor : cursor < (graph.showing (graph.route position)).length) (hfuel : fuel ≤ blocks) :
    walk graph step fuel ⟨graph.route position, cursor⟩ =
      TraceStep.numbered step (((graph.stretch position blocks).drop cursor).take fuel) := by
  induction fuel generalizing step position cursor blocks with
  | zero => rfl
  | succ fuel ih =>
    obtain ⟨blocks, rfl⟩ := Nat.exists_eq_add_one_of_ne_zero (show blocks ≠ 0 by omega)
    obtain ⟨node, hget, hfirst⟩ := hroute position
    have hnode : node.Playable := hgraph.node_playable hget
    have hlength : (graph.showing (graph.route position)).length = node.views.length := by
      rw [Graph.showing_of_get? hget, List.length_map]
    rw [hlength] at hcursor
    have hshown : node.views[cursor]? = some node.views[cursor] := List.getElem?_eq_getElem hcursor
    rw [Graph.drop_stretch_of_lt hget hcursor, List.take_succ_cons, TraceStep.numbered_cons]
    -- The label has another view, or the next label is entered.
    rcases Nat.lt_or_eq_of_le (Nat.succ_le_of_lt hcursor) with hlt | hlast
    · rw [walk_of_lt hget hnode hshown hlt]
      congr 1
      exact ih (hlength ▸ hlt) (by omega)
    · have hnext := hroute (position + 1)
      rw [walk_of_eq hget hnode hshown hlast hfirst hnext.mem_labels,
        Graph.drop_stretch_of_eq hget hlast]
      congr 1
      exact ih (hgraph.showing_pos hnext) (by omega)

end Player

theorem TraceStep.length_numbered (first : Nat) (shown : List (Label × View)) :
    (numbered first shown).length = shown.length := List.length_mapIdx

theorem TraceStep.map_label_numbered (first : Nat) (shown : List (Label × View)) :
    (numbered first shown).map TraceStep.label = shown.map Prod.fst := by
  induction shown generalizing first with
  | nil => rfl
  | cons entry shown ih => rw [numbered_cons, List.map_cons, List.map_cons, ih]

namespace Graph

variable {graph : Graph} {count entered : Nat}

theorem map_fst_playthrough (graph : Graph) (entered : Nat) :
    (graph.playthrough entered).map Prod.fst =
      runs graph.route (fun position ↦ (graph.showing (graph.route position)).length)
        (List.range entered) := by
  rw [playthrough, List.map_flatMap, runs]
  congr 1
  funext position
  cases hget : graph.get? (graph.route position) with
  | none => simp [showing, hget]
  | some node => simp [showing_of_get? hget, Function.comp_def, List.map_const']

theorem Playable.le_length_playthrough (h : graph.Playable)
    (hroute : ∀ position, graph.Follows (graph.route position) (graph.route (position + 1)))
    (entered : Nat) : entered ≤ (graph.playthrough entered).length := by
  induction entered with
  | zero => exact Nat.zero_le _
  | succ entered ih =>
    have hshown := h.showing_pos (hroute entered)
    rw [playthrough] at ih ⊢
    rw [List.range_succ, List.flatMap_append, List.length_append, List.flatMap_singleton]
    omega

theorem Playable.steps_trace (h : graph.Playable)
    (hroute : ∀ position, graph.Follows (graph.route position) (graph.route (position + 1)))
    (hentered : count ≤ entered) : (graph.trace count).steps =
      TraceStep.numbered 0 ((graph.playthrough entered).take count) := by
  rw [playthrough_eq_stretch]
  exact Player.walk_route h hroute (h.showing_pos (hroute 0)) hentered

/-- The path of a trace is the route as far as the labels on it have begun to show. -/
theorem Playable.exists_path_trace (h : graph.Playable)
    (hroute : ∀ position, graph.Follows (graph.route position) (graph.route (position + 1)))
    (count : Nat) : ∃ entered, count ≤ (graph.playthrough entered).length ∧
      (∀ fewer < entered, (graph.playthrough fewer).length < count) ∧
      (graph.trace count).path = collapse ((List.range entered).map graph.route) := by
  have hlength : ∀ entered, (runs graph.route
      (fun position ↦ (graph.showing (graph.route position)).length) (List.range entered)).length =
        (graph.playthrough entered).length := by
    intro entered
    rw [← map_fst_playthrough, List.length_map]
  have hruns : count ≤ (runs graph.route
      (fun position ↦ (graph.showing (graph.route position)).length) (List.range count)).length :=
    hlength count ▸ h.le_length_playthrough hroute count
  obtain ⟨entered, hentered, hcount, hfewer, hcollapse⟩ :=
    exists_collapse_take_runs graph.route (fun position ↦ h.showing_pos (hroute position)) hruns
  rw [List.length_range] at hentered
  have htake : ∀ fewer ≤ entered, (List.range count).take fewer = List.range fewer := by
    intro fewer hle
    rw [List.take_range, Nat.min_eq_left (hle.trans hentered)]
  refine ⟨entered, ?_, ?_, ?_⟩
  · rwa [htake entered le_rfl, hlength] at hcount
  · intro fewer hlt
    rw [← hlength, ← htake fewer hlt.le]
    exact hfewer fewer hlt
  · rw [Trace.path, h.steps_trace hroute le_rfl, TraceStep.map_label_numbered, List.map_take,
      map_fst_playthrough, hcollapse, htake entered le_rfl]

end Graph

namespace Draft

variable {settings : Settings} {draft : Draft}

theorem follows_route_compile (settings : Settings) (h : draft.ids ≠ [] ∨ draft.ending ≠ none)
    (position : Nat) : (draft.compile settings).Follows ((draft.compile settings).route position)
      ((draft.compile settings).route (position + 1)) := by
  apply (playable_compile settings draft).follows_route
  intro node hnode hterminal
  obtain ⟨_, hids, hending⟩ := (continuation_eq_terminal_iff hnode).mp hterminal
  exact h.elim (fun hne ↦ hne hids) fun hne ↦ hne hending

theorem exists_steps_trace_of_stuck (settings : Settings) (hids : draft.ids = [])
    (hending : draft.ending = none) (count : Nat) : ∃ title subtitle description,
      ((draft.compile settings).trace count).steps =
        [⟨0, .cover, .cover title subtitle description none⟩].take count := by
  have hgraph := playable_compile settings draft
  obtain ⟨node, hnode⟩ := Player.exists_at_of_mem hgraph.cover_mem
  obtain ⟨hmem, hlabel⟩ := Graph.mem_of_get?_eq_some hnode.found
  have hterminal : node.continuation = .terminal :=
    (continuation_eq_terminal_iff hmem).mpr ⟨hlabel, hids, hending⟩
  obtain ⟨⟨title, subtitle, description, hview⟩, hadvance⟩ :=
    hnode.advance_terminal (hgraph.node_playable hnode.found) hterminal
  refine ⟨title, subtitle, description, ?_⟩
  cases count with
  | zero => rfl
  | succ count =>
    have hproceed : Player.proceed (draft.compile settings) ⟨.cover, 0⟩
        (.cover title subtitle description none) = .error (.noWayForward .cover) :=
      (Player.proceed_of_isMenu_eq_false rfl _).trans hadvance
    rw [Graph.trace, Player.start, Player.walk, hview]
    simp only [hproceed, List.take_succ_cons, List.take_nil]

theorem isChain_path_trace (settings : Settings) (draft : Draft) (count : Nat) :
    ((draft.compile settings).trace count).path.IsChain fun label other ↦
      ∃ edge ∈ (draft.compile settings).edges, edge.source = label ∧ edge.target = other := by
  by_cases h : draft.ids ≠ [] ∨ draft.ending ≠ none
  · have hroute := follows_route_compile settings h
    obtain ⟨entered, _, _, hpath⟩ :=
      (playable_compile settings draft).exists_path_trace hroute count
    rw [hpath]
    apply isChain_collapse
    rw [List.isChain_map, List.isChain_range]
    exact fun position _ ↦ (hroute position).exists_edge
  · obtain ⟨hids, hending⟩ := not_or.mp h
    obtain ⟨_, _, _, hsteps⟩ :=
      exists_steps_trace_of_stuck settings (not_not.mp hids) (not_not.mp hending) count
    rw [Trace.path, hsteps]
    apply isChain_collapse
    cases count <;> simp

/-- A trace is the beginning of the playthrough that takes every first choice: it has as many steps
as are asked for, and they show the labels of the route one after the other, each with all that it
has to show. Only a story that leads nowhere has no more than its cover to show. So a shorter trace
is a beginning of a longer one, and the path of a trace is the route as far as it was entered, where
each label leads to the next by an edge. -/
theorem trace_firstChoices (settings : Settings) (draft : Draft) (count : Nat) :
    (draft.ids ≠ [] ∨ draft.ending ≠ none →
      (∀ position, (draft.compile settings).Follows ((draft.compile settings).route position)
        ((draft.compile settings).route (position + 1))) ∧
      ((draft.compile settings).trace count).steps.length = count ∧
      (∀ entered, count ≤ entered → ((draft.compile settings).trace count).steps =
        TraceStep.numbered 0 (((draft.compile settings).playthrough entered).take count)) ∧
      ∃ entered, count ≤ ((draft.compile settings).playthrough entered).length ∧
        (∀ fewer < entered, ((draft.compile settings).playthrough fewer).length < count) ∧
        ((draft.compile settings).trace count).path =
          ((List.range entered).map (draft.compile settings).route).destutter (· ≠ ·)) ∧
    (draft.ids = [] → draft.ending = none →
      ((draft.compile settings).trace count).steps.length = min count 1 ∧
      ∃ title subtitle description, ((draft.compile settings).trace count).steps =
        [⟨0, .cover, .cover title subtitle description none⟩].take count) ∧
    (∀ fewer ≤ count, ((draft.compile settings).trace fewer).steps <+:
      ((draft.compile settings).trace count).steps) ∧
    ((draft.compile settings).trace count).path =
      (((draft.compile settings).trace count).steps.map TraceStep.label).destutter (· ≠ ·) ∧
    ((draft.compile settings).trace count).path.IsChain fun label other ↦
      ∃ edge ∈ (draft.compile settings).edges, edge.source = label ∧ edge.target = other := by
  have hgraph := playable_compile settings draft
  refine ⟨?_, ?_, ?_, collapse_eq_destutter _, isChain_path_trace settings draft count⟩
  · intro h
    have hroute := follows_route_compile settings h
    refine ⟨hroute, ?_, fun entered hentered ↦ hgraph.steps_trace hroute hentered, ?_⟩
    · rw [hgraph.steps_trace hroute le_rfl, TraceStep.length_numbered, List.length_take,
        Nat.min_eq_left (hgraph.le_length_playthrough hroute count)]
    · obtain ⟨entered, hcount, hfewer, hpath⟩ := hgraph.exists_path_trace hroute count
      exact ⟨entered, hcount, hfewer, hpath.trans (collapse_eq_destutter _)⟩
  · intro hids hending
    obtain ⟨title, subtitle, description, hsteps⟩ :=
      exists_steps_trace_of_stuck settings hids hending count
    exact ⟨by rw [hsteps, List.length_take]; rfl, title, subtitle, description, hsteps⟩
  · intro fewer hle
    exact Player.walk_prefix _ 0 hle Player.start

end Draft

end StoryGraph
