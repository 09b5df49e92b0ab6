import Mathlib.Data.List.Chain
import Mathlib.Data.List.Perm.Subperm
import StoryGraph.Graph.Reachable
import StoryGraph.Proofs.Labels

namespace StoryGraph.Graph

variable {graph : Graph} {label other : Label} {seen labels : List Label} {next fuel : Nat}

theorem mem_successors_iff : other ∈ graph.successors label ↔
    ∃ node, graph.get? label = some node ∧ other ∈ node.continuation.targets ∧
      other ∈ graph.labels := by
  unfold successors
  cases graph.get? label <;> simp

theorem Reaches.mem_labels (h : graph.Reaches label) : label ∈ graph.labels := by
  cases h with
  | cover hcover => exact graph.contains_eq_true.mp hcover
  | step _ hsuccessor =>
    obtain ⟨_, _, _, hmem⟩ := mem_successors_iff.mp hsuccessor
    exact hmem

theorem Reaches.cover_mem (h : graph.Reaches label) : .cover ∈ graph.labels := by
  induction h with
  | cover hcover => exact graph.contains_eq_true.mp hcover
  | step _ _ ih => exact ih

theorem prefix_discover (seen labels : List Label) : seen <+: discover seen labels := by
  induction labels generalizing seen with
  | nil => exact List.prefix_rfl
  | cons label labels ih =>
    rw [discover]
    split_ifs
    · exact ih seen
    · exact (List.prefix_append seen [label]).trans (ih _)

theorem mem_discover_iff : label ∈ discover seen labels ↔ label ∈ seen ∨ label ∈ labels := by
  induction labels generalizing seen with
  | nil => simp [discover]
  | cons head labels ih =>
    rw [discover, ih, List.mem_cons]
    by_cases hseen : head ∈ seen
    · simp only [List.contains_iff_mem.mpr hseen, if_true]
      constructor
      · rintro (h | h)
        · exact .inl h
        · exact .inr (.inr h)
      · rintro (h | rfl | h)
        · exact .inl h
        · exact .inl hseen
        · exact .inr h
    · simp [hseen, or_assoc]

theorem nodup_discover (h : seen.Nodup) : (discover seen labels).Nodup := by
  induction labels generalizing seen with
  | nil => exact h
  | cons label labels ih =>
    rw [discover]
    apply ih
    split_ifs with hseen
    · exact h
    · rw [List.nodup_append]
      refine ⟨h, List.nodup_singleton label, ?_⟩
      intro found hfound other hother heq
      rw [List.mem_singleton.mp hother] at heq
      exact hseen (List.contains_iff_mem.mpr (heq ▸ hfound))

/-- A state of the search. The labels before position `next` have been expanded. -/
structure Searching (graph : Graph) (next : Nat) (seen : List Label) : Prop where
  nodup : seen.Nodup
  cover_mem : .cover ∈ seen
  reaches : ∀ label ∈ seen, graph.Reaches label
  expanded : ∀ position label, position < next → seen[position]? = some label →
    ∀ other ∈ graph.successors label, other ∈ seen

theorem Searching.length_le (h : Searching graph next seen) : seen.length ≤ graph.nodes.length := by
  have hsubset : seen ⊆ graph.labels := fun label hlabel ↦ (h.reaches label hlabel).mem_labels
  have hle := (List.subperm_of_subset h.nodup hsubset).length_le
  rwa [labels, List.length_map] at hle

theorem Searching.expand (h : Searching graph next seen) (hlabel : seen[next]? = some label) :
    Searching graph (next + 1) (discover seen (graph.successors label)) where
  nodup := nodup_discover h.nodup
  cover_mem := mem_discover_iff.mpr (.inl h.cover_mem)
  reaches := by
    intro found hfound
    rcases mem_discover_iff.mp hfound with hseen | hsuccessor
    · exact h.reaches found hseen
    · exact .step (h.reaches label (List.mem_of_getElem? hlabel)) hsuccessor
  expanded := by
    intro position found hposition hfound other hother
    have hlt : next < seen.length := (List.getElem?_eq_some_iff.mp hlabel).1
    have hposition' : position < seen.length := by omega
    obtain ⟨fresh, hfresh⟩ := prefix_discover seen (graph.successors label)
    have hseen : seen[position]? = some found := by
      rw [← hfound, ← hfresh, List.getElem?_append_left hposition']
    rw [mem_discover_iff]
    -- What was expanded before stays expanded since labels are only added behind the others.
    rcases Nat.lt_succ_iff_lt_or_eq.mp hposition with hbefore | rfl
    · exact .inl (h.expanded position found hbefore hseen other hother)
    · cases hlabel.symm.trans hseen
      exact .inr hother

/-- The search ends when every label found has been expanded. There are no more labels than nodes,
so it does not run out of fuel before. -/
theorem Searching.exists_end (h : Searching graph next seen)
    (hfuel : graph.nodes.length < next + fuel) :
    ∃ last, Searching graph last (graph.search fuel next seen) ∧
      (graph.search fuel next seen).length ≤ last := by
  induction fuel generalizing next seen with
  | zero =>
    have hle := h.length_le
    exact ⟨next, h, by rw [search]; omega⟩
  | succ fuel ih =>
    rw [search]
    cases hlabel : seen[next]? with
    | none => exact ⟨next, h, List.getElem?_eq_none_iff.mp hlabel⟩
    | some label => exact ih (h.expand hlabel) (by omega)

theorem exists_searching_reachable (h : .cover ∈ graph.labels) :
    ∃ last, Searching graph last graph.reachable ∧ graph.reachable.length ≤ last := by
  have hcover : graph.contains .cover = true := graph.contains_eq_true.mpr h
  have hstart : Searching graph 0 [.cover] := by
    refine ⟨List.nodup_singleton _, List.mem_singleton.mpr rfl, ?_, nofun⟩
    intro label hlabel
    rw [List.mem_singleton.mp hlabel]
    exact .cover hcover
  rw [reachable, if_pos hcover]
  exact hstart.exists_end (by omega)

theorem reachable_of_not_mem (h : .cover ∉ graph.labels) : graph.reachable = [] := by
  rw [reachable, if_neg (mt graph.contains_eq_true.mp h)]

theorem nodup_reachable (graph : Graph) : graph.reachable.Nodup := by
  by_cases h : .cover ∈ graph.labels
  · obtain ⟨_, hsearching, _⟩ := exists_searching_reachable h
    exact hsearching.nodup
  · rw [reachable_of_not_mem h]
    exact List.nodup_nil

/-- The search finds a label if and only if a chain of labels leads to it. -/
theorem mem_reachable_iff : label ∈ graph.reachable ↔ graph.Reaches label := by
  constructor
  · intro h
    by_cases hcover : .cover ∈ graph.labels
    · obtain ⟨_, hsearching, _⟩ := exists_searching_reachable hcover
      exact hsearching.reaches label h
    · rw [reachable_of_not_mem hcover] at h
      cases h
  · intro h
    obtain ⟨last, hsearching, hlast⟩ := exists_searching_reachable h.cover_mem
    -- At the end the labels found are closed under successors.
    induction h with
    | cover => exact hsearching.cover_mem
    | step _ hsuccessor ih =>
      obtain ⟨position, hposition⟩ := List.mem_iff_getElem?.mp ih
      have hlt := (List.getElem?_eq_some_iff.mp hposition).1
      exact hsearching.expanded position _ (by omega) hposition _ hsuccessor

theorem search_of_le (fuel : Nat) (h : seen.length ≤ next) :
    graph.search fuel next seen = seen := by
  cases fuel with
  | zero => rfl
  | succ fuel => rw [search, List.getElem?_eq_none h]

theorem nodup_search (h : seen.Nodup) : (graph.search fuel next seen).Nodup := by
  induction fuel generalizing next seen with
  | zero => exact h
  | succ fuel ih =>
    rw [search]
    cases seen[next]? with
    | none => exact h
    | some label => exact ih (nodup_discover h)

/-- What has been found stays in its place while the search goes on. -/
theorem prefix_search {more : Nat} (h : fuel ≤ more) :
    graph.search fuel next seen <+: graph.search more next seen := by
  induction more generalizing fuel next seen with
  | zero =>
    obtain rfl := Nat.le_zero.mp h
    exact List.prefix_rfl
  | succ more ih =>
    cases fuel with
    | zero =>
      rw [search, search]
      cases seen[next]? with
      | none => exact List.prefix_rfl
      | some label => exact (prefix_discover seen _).trans (ih (Nat.zero_le more))
    | succ fuel =>
      rw [search, search]
      cases seen[next]? with
      | none => exact List.prefix_rfl
      | some label => exact ih (Nat.le_of_succ_le_succ h)

theorem search_eq_of_length_le {more : Nat} (h : fuel ≤ more)
    (hlength : (graph.search fuel next seen).length ≤ next + fuel) :
    graph.search more next seen = graph.search fuel next seen := by
  induction fuel generalizing next seen more with
  | zero => exact search_of_le more hlength
  | succ fuel ih =>
    obtain ⟨more, rfl⟩ := Nat.exists_eq_add_one.mpr (Nat.lt_of_lt_of_le fuel.succ_pos h)
    rw [search] at hlength ⊢
    rw [search]
    cases hlabel : seen[next]? with
    | none => rfl
    | some label =>
      simp only [hlabel] at hlength
      exact ih (Nat.le_of_succ_le_succ h) (by omega)

theorem length_reachable_le (graph : Graph) : graph.reachable.length ≤ graph.nodes.length := by
  by_cases h : .cover ∈ graph.labels
  · obtain ⟨_, hsearching, _⟩ := exists_searching_reachable h
    exact hsearching.length_le
  · rw [reachable_of_not_mem h]
    exact Nat.zero_le _

theorem search_eq_reachable (h : .cover ∈ graph.labels) (hfuel : graph.reachable.length ≤ fuel) :
    graph.search fuel 0 [.cover] = graph.reachable := by
  have hreachable : graph.search (graph.nodes.length + 1) 0 [.cover] = graph.reachable := by
    rw [reachable, if_pos (graph.contains_eq_true.mpr h)]
  have hle : graph.reachable.length ≤ graph.nodes.length + 1 :=
    Nat.le_succ_of_le graph.length_reachable_le
  -- After as many expansions as there are reachable labels nothing is left to expand, since no
  -- more labels than those have been found by then.
  have hlength : (graph.search graph.reachable.length 0 [.cover]).length ≤
      0 + graph.reachable.length := by
    have hprefix := (prefix_search hle : graph.search _ 0 [.cover] <+: _).length_le
    rw [hreachable] at hprefix
    omega
  rw [search_eq_of_length_le hfuel hlength, ← search_eq_of_length_le hle hlength, hreachable]

def LeadsOn (graph : Graph) (label other : Label) : Prop :=
  ∃ before node after, graph.nodes = before ++ node :: after ∧ node.label = label ∧
    (∀ earlier ∈ before, earlier.label ≠ label) ∧ other ∈ node.continuation.targets ∧
      other ∈ graph.labels

theorem get?_eq_some_iff_split {node : Node} : graph.get? label = some node ↔
    ∃ before after, graph.nodes = before ++ node :: after ∧ node.label = label ∧
      ∀ earlier ∈ before, earlier.label ≠ label := by
  rw [get?, List.find?_eq_some_iff_append]
  simp only [decide_eq_true_eq, Bool.not_eq_true', decide_eq_false_iff_not]
  constructor
  · intro h
    obtain ⟨hlabel, before, after, hnodes, hbefore⟩ := h
    exact ⟨before, after, hnodes, hlabel, hbefore⟩
  · intro h
    obtain ⟨before, after, hnodes, hlabel, hbefore⟩ := h
    exact ⟨hlabel, before, after, hnodes, hbefore⟩

theorem mem_successors_iff_leadsOn :
    other ∈ graph.successors label ↔ graph.LeadsOn label other := by
  rw [mem_successors_iff, LeadsOn]
  constructor
  · intro h
    obtain ⟨node, hnode, htarget, hmem⟩ := h
    obtain ⟨before, after, hnodes, hlabel, hbefore⟩ := get?_eq_some_iff_split.mp hnode
    exact ⟨before, node, after, hnodes, hlabel, hbefore, htarget, hmem⟩
  · intro h
    obtain ⟨before, node, after, hnodes, hlabel, hbefore, htarget, hmem⟩ := h
    have hnode := get?_eq_some_iff_split.mpr ⟨before, after, hnodes, hlabel, hbefore⟩
    exact ⟨node, hnode, htarget, hmem⟩

theorem reaches_iff_reflTransGen : graph.Reaches label ↔
    .cover ∈ graph.labels ∧ Relation.ReflTransGen graph.LeadsOn .cover label := by
  constructor
  · intro h
    refine ⟨h.cover_mem, ?_⟩
    induction h with
    | cover => exact .refl
    | step _ hsuccessor ih => exact ih.tail (mem_successors_iff_leadsOn.mp hsuccessor)
  · intro h
    obtain ⟨hcover, hleads⟩ := h
    induction hleads with
    | refl => exact .cover (graph.contains_eq_true.mpr hcover)
    | tail _ hleads ih => exact ih.step (mem_successors_iff_leadsOn.mpr hleads)

theorem reaches_iff_exists_chain : graph.Reaches label ↔ .cover ∈ graph.labels ∧
    ∃ chain : List Label, (.cover :: chain).IsChain graph.LeadsOn ∧
      (Label.cover :: chain).getLast (List.cons_ne_nil _ _) = label := by
  rw [reaches_iff_reflTransGen]
  apply and_congr_right
  intro _
  constructor
  · intro h
    exact List.exists_isChain_cons_of_relationReflTransGen h
  · intro h
    obtain ⟨chain, hchain, hlast⟩ := h
    exact List.relationReflTransGen_of_exists_isChain_cons chain hchain hlast

theorem reachable_eq_nil_iff : graph.reachable = [] ↔ .cover ∉ graph.labels := by
  constructor
  · intro h hcover
    have hmem : .cover ∈ graph.reachable :=
      mem_reachable_iff.mpr (.cover (graph.contains_eq_true.mpr hcover))
    rw [h] at hmem
    cases hmem
  · exact reachable_of_not_mem

theorem count_unreachable (graph : Graph) (label : Label) : graph.unreachable.count label =
    if label ∈ graph.reachable then 0 else graph.labels.count label := by
  unfold unreachable
  split_ifs with h
  · simp [List.count_eq_zero, h]
  · exact List.count_filter (by simpa using h)

/-- On any graph the search comes to an end, after as many expansions as it finds labels; it enters
no label twice. It finds the labels at the ends of chains from the cover, in which each label is a
label of the graph and a target of the first node with the label before it, and so it finds nothing
only where there is no cover. The unreachable labels are all others, as often and in the order in
which the graph has them. -/
theorem search_exact (graph : Graph) :
    (.cover ∈ graph.labels → ∀ fuel, graph.reachable.length ≤ fuel →
        graph.search fuel 0 [.cover] = graph.reachable) ∧
      (∀ fuel, (graph.search fuel 0 [.cover]).Nodup ∧
        graph.search fuel 0 [.cover] <+: graph.search (fuel + 1) 0 [.cover]) ∧
      graph.reachable.length ≤ graph.nodes.length ∧
      (∀ label, label ∈ graph.reachable ↔ .cover ∈ graph.labels ∧
        ∃ chain : List Label, (.cover :: chain).IsChain graph.LeadsOn ∧
          (Label.cover :: chain).getLast (List.cons_ne_nil _ _) = label) ∧
      (graph.reachable = [] ↔ .cover ∉ graph.labels) ∧
      graph.unreachable.Sublist graph.labels ∧
      ∀ label, graph.unreachable.count label =
        if label ∈ graph.reachable then 0 else graph.labels.count label := by
  refine ⟨?_, ?_, graph.length_reachable_le, ?_, reachable_eq_nil_iff, List.filter_sublist,
    graph.count_unreachable⟩
  · intro hcover fuel hfuel
    exact search_eq_reachable hcover hfuel
  · intro fuel
    exact ⟨nodup_search (List.nodup_singleton _), prefix_search fuel.le_succ⟩
  · intro label
    rw [mem_reachable_iff, reaches_iff_exists_chain]

example : Graph.reachable ⟨[⟨.cover, .scene ⟨none, none, []⟩, .afterLastLine (.scene "a")⟩,
    ⟨.cover, .scene ⟨none, none, []⟩, .afterLastLine .ending⟩,
    ⟨.scene "a", .scene ⟨none, none, []⟩, .menu [⟨0, "", .cover⟩, ⟨1, "", .scene "b"⟩]⟩,
    ⟨.ending, .scene ⟨none, none, []⟩, .terminal⟩], none⟩ = [.cover, .scene "a"] := by decide

end StoryGraph.Graph
