import Mathlib.Algebra.BigOperators.Group.List.Lemmas
import Mathlib.Algebra.GroupWithZero.Nat
import StoryGraph.Proofs.ByteOrder
import StoryGraph.Proofs.Recoveries

namespace StoryGraph

section Sums

variable {α β : Type}

theorem sum_map_filterMap {choose : α → Option β} {value : β → Nat} {total : α → Nat}
    (h : ∀ item, (choose item).elim 0 value = total item) (items : List α) :
    ((items.filterMap choose).map value).sum = (items.map total).sum := by
  induction items with
  | nil => rfl
  | cons head items ih =>
    rw [List.map_cons, List.sum_cons, ← h head, ← ih]
    cases hhead : choose head with
    | none => simp [hhead]
    | some found => simp [hhead]

theorem Occurrence.distinct_perm_dedup (names : List String) :
    (Occurrence.distinct names).Perm names.dedup := by
  rw [List.perm_ext_iff_of_nodup (Occurrence.nodup_distinct names) names.nodup_dedup]
  intro name
  rw [Occurrence.mem_distinct, List.mem_dedup]

/-- Every occurrence of a name is its first one or is counted as a repetition. -/
theorem Occurrence.length_eq_distinct_add_sum (names : List String) :
    names.length = (Occurrence.distinct names).length +
      ((Occurrence.distinct names).map fun name ↦ names.count name - 1).sum := by
  have hcount : ∀ name ∈ Occurrence.distinct names,
      names.count name = (names.count name - 1) + 1 := by
    intro name hname
    have hpos := List.count_pos_iff.mpr (Occurrence.mem_distinct.mp hname)
    omega
  calc names.length
      = (names.dedup.map fun name ↦ names.count name).sum :=
        (List.sum_map_count_dedup_eq_length names).symm
    _ = ((Occurrence.distinct names).map fun name ↦ names.count name).sum :=
        ((Occurrence.distinct_perm_dedup names).map _).sum_eq.symm
    _ = ((Occurrence.distinct names).map fun name ↦ (names.count name - 1) + 1).sum :=
        congrArg List.sum (List.map_congr_left hcount)
    _ = _ := by
      rw [List.sum_map_add]
      simp [Nat.add_comm]

end Sums

namespace Issue

def duplicates? : Issue → Option (List Nat)
  | duplicateId _ positions => some positions
  | _ => none

def duplicatesOf? (id : String) (issue : Issue) : Option (List Nat) :=
  if issue.subject = id then issue.duplicates? else none

variable {issue : Issue} {positions : List Nat}

theorem part_of_duplicates? (h : issue.duplicates? = some positions) : issue.part = .ids := by
  cases issue <;> cases h
  rfl

theorem duplicatesOf?_eq_some_iff {id : String} :
    issue.duplicatesOf? id = some positions ↔
      issue.subject = id ∧ issue.duplicates? = some positions := by
  rw [duplicatesOf?, Option.ite_none_right_eq_some]

end Issue

namespace Draft

variable {settings : Settings} {draft : Draft} {id : String} {position : Nat}

/-- The scenes with the id stand at these positions, which are in order. -/
structure OccursAt (draft : Draft) (id : String) (positions : List Nat) : Prop where
  ascending : positions.Pairwise (· < ·)
  mem_iff : ∀ position, position ∈ positions ↔
    ∃ scene, draft.scenes[position]? = some scene ∧ scene.name? = some id

theorem occursAt_positionsOf (draft : Draft) (id : String) :
    draft.OccursAt id (draft.positionsOf id) :=
  ⟨draft.pairwise_positionsOf id, fun _ ↦ mem_positionsOf⟩

theorem name?_eq_none_iff {scene : Scene} :
    scene.name? = none ↔ scene.id = none ∨ scene.id = some "" := by
  cases hid : scene.id <;> simp [Scene.name?, filled, hid, Option.filter]

theorem filterMap_unnamedPosition?_lint (settings : Settings) (draft : Draft) :
    (draft.lint settings).issues.filterMap Issue.unnamedPosition? = draft.unnamedPositions := by
  rw [filterMap_issues_lint fun _ _ ↦ Issue.part_of_unnamedPosition?, issuesOf, List.filterMap_map]
  exact List.filterMap_some

theorem sceneWithoutId_mem_lint_iff :
    .sceneWithoutId position ∈ (draft.lint settings).issues ↔
      ∃ scene, draft.scenes[position]? = some scene ∧ scene.name? = none := by
  rw [← mem_unnamedPositions, mem_issues_lint_iff]
  change _ ∈ draft.unnamedPositions.map Issue.sceneWithoutId ↔ _
  simp

theorem filterMap_duplicates?_idIssues (settings : Settings) (draft : Draft) (id : String) :
    (draft.idIssues settings id).filterMap Issue.duplicates? =
      if 1 < draft.ids.count id then [draft.positionsOf id] else [] := by
  rw [idIssues, ← length_positionsOf]
  split_ifs <;> rfl

theorem filterMap_duplicates?_lint (settings : Settings) (draft : Draft) :
    (draft.lint settings).issues.filterMap Issue.duplicates? =
      draft.sortedIds.filterMap fun id ↦
        if 1 < draft.ids.count id then some (draft.positionsOf id) else none := by
  rw [filterMap_issues_lint fun _ _ ↦ Issue.part_of_duplicates?, issuesOf, List.filterMap_flatMap,
    List.filterMap_eq_flatMap_toList]
  congr 1
  funext id
  rw [filterMap_duplicates?_idIssues]
  split_ifs <;> rfl

theorem filterMap_duplicatesOf?_lint (settings : Settings) (hcount : 1 < draft.ids.count id) :
    (draft.lint settings).issues.filterMap (Issue.duplicatesOf? id) = [draft.positionsOf id] := by
  have hid : id ∈ draft.sortedIds :=
    mem_sortedIds.mpr (List.count_pos_iff.mp (Nat.lt_of_succ_lt hcount))
  have hpart : ∀ (issue : Issue) positions, issue.duplicatesOf? id = some positions →
      issue.part = .ids :=
    fun _ _ h ↦ Issue.part_of_duplicates? (Issue.duplicatesOf?_eq_some_iff.mp h).2
  have hsorted : (draft.sortedIds.map fun id ↦ id).Nodup := by simpa using nodup_sortedIds draft
  rw [filterMap_issues_lint hpart, issuesOf, filterMap_flatMap_of_key Issue.subject (fun id ↦ id)
    hsorted hid (fun _ _ _ h ↦ (key_of_mem_idIssues h).2)
    fun _ _ h ↦ (Issue.duplicatesOf?_eq_some_iff.mp h).1]
  have hduplicates : (draft.idIssues settings id).filterMap (Issue.duplicatesOf? id) =
      (draft.idIssues settings id).filterMap Issue.duplicates? := by
    apply List.filterMap_congr
    intro issue hissue
    rw [Issue.duplicatesOf?, if_pos (key_of_mem_idIssues hissue).2]
  rw [hduplicates, filterMap_duplicates?_idIssues, if_pos hcount]

theorem pairwise_sortedIds (draft : Draft) :
    draft.sortedIds.Pairwise fun id other ↦ id = other ∨ Text.Precedes id other := by
  have hsorted : draft.sortedIds.Pairwise fun id other ↦ decide (id ≤ other) = true := by
    apply List.pairwise_mergeSort
    · intro id other third h h'
      exact decide_eq_true (String.le_trans (of_decide_eq_true h) (of_decide_eq_true h'))
    · intro id other
      rw [Bool.or_eq_true, decide_eq_true_eq, decide_eq_true_eq]
      exact String.le_total id other
  apply hsorted.imp
  intro id other h
  rcases Std.le_iff_lt_or_eq.mp (of_decide_eq_true h) with hlt | heq
  · exact .inr (Text.precedes_of_lt hlt)
  · exact .inl heq

theorem filter_ids_lint (settings : Settings) (draft : Draft) :
    ((draft.lint settings).issues.filter fun issue ↦ issue.part = .ids) =
      draft.sortedIds.flatMap (draft.idIssues settings) := by
  change _ = draft.issuesOf settings .ids
  rw [← List.filterMap_eq_filter, filterMap_issues_lint, List.filterMap_eq_filter]
  · apply List.filter_eq_self.mpr
    intro issue hissue
    exact decide_eq_true (part_of_mem_issuesOf hissue)
  · intro issue result h
    obtain ⟨rfl, hpart⟩ := Option.guard_eq_some_iff.mp h
    exact of_decide_eq_true hpart

theorem pairwise_subject_lint (settings : Settings) (draft : Draft) :
    (((draft.lint settings).issues.filter fun issue ↦ issue.part = .ids).map
      Issue.subject).Pairwise fun id other ↦ id = other ∨ Text.Precedes id other := by
  rw [filter_ids_lint, List.pairwise_map, List.pairwise_flatMap]
  constructor
  · intro id _
    apply List.pairwise_of_forall_mem_list
    intro issue hissue issue' hissue'
    left
    rw [(key_of_mem_idIssues hissue).2, (key_of_mem_idIssues hissue').2]
  · apply draft.pairwise_sortedIds.imp
    intro id other h issue hissue issue' hissue'
    rw [(key_of_mem_idIssues hissue).2, (key_of_mem_idIssues hissue').2]
    exact h

theorem length_scenes (draft : Draft) :
    draft.scenes.length = draft.unnamedPositions.length + draft.ids.length := by
  have hnamed : ∀ scene : Scene,
      (!decide (scene.name? = none)) = (filled scene.id).isSome := by
    intro scene
    change (!decide (filled scene.id = none)) = _
    cases filled scene.id <;> rfl
  rw [unnamedPositions_eq_findIdxs, List.length_findIdxs, ids_eq_filterMap,
    List.length_filterMap_eq_countP,
    List.length_eq_countP_add_countP fun scene : Scene ↦ scene.name? = none]
  simp only [decide_not, Bool.decide_eq_true, hnamed]

theorem filterMap_sceneId?_compile (settings : Settings) (draft : Draft) :
    (draft.compile settings).labels.filterMap Label.sceneId? =
      Occurrence.distinct draft.ids := by
  have hscenes : ((Occurrence.distinct draft.ids).map Label.scene).filterMap Label.sceneId? =
      Occurrence.distinct draft.ids := by
    rw [List.filterMap_map]
    exact List.filterMap_some
  rw [labels_compile_eq_distinct, List.filterMap_cons_none rfl, List.filterMap_append, hscenes]
  cases draft.hasEnding <;> simp [Label.sceneId?]

theorem sum_duplicates?_lint (settings : Settings) (draft : Draft) :
    (((draft.lint settings).issues.filterMap Issue.duplicates?).map fun positions ↦
        positions.length - 1).sum =
      ((Occurrence.distinct draft.ids).map fun id ↦ draft.ids.count id - 1).sum := by
  have htotal : ∀ id, (if 1 < draft.ids.count id then some (draft.positionsOf id) else none).elim 0
      (fun positions ↦ positions.length - 1) = draft.ids.count id - 1 := by
    intro id
    split_ifs with hcount
    · rw [Option.elim_some, length_positionsOf]
    · rw [Option.elim_none]
      omega
  rw [filterMap_duplicates?_lint, sum_map_filterMap htotal]
  exact ((List.mergeSort_perm _ _).map _).sum_eq

/-- A draft has as many scenes as are reported without an id, have a label of their own, or stand
before the last scene under a repeated id. -/
theorem length_scenes_eq_add (settings : Settings) (draft : Draft) :
    draft.scenes.length =
      ((draft.lint settings).issues.filterMap Issue.unnamedPosition?).length +
        ((draft.compile settings).labels.filterMap Label.sceneId?).length +
        (((draft.lint settings).issues.filterMap Issue.duplicates?).map fun positions ↦
          positions.length - 1).sum := by
  rw [filterMap_unnamedPosition?_lint, filterMap_sceneId?_compile, sum_duplicates?_lint,
    length_scenes, Occurrence.length_eq_distinct_add_sum draft.ids, Nat.add_assoc]

theorem IsUsed.exists_get?_compile (settings : Settings) {scene : Scene}
    (h : draft.IsUsed position id scene) : ∃ follower,
      (draft.compile settings).get? (.scene id) =
        some ((draft.normalize settings).sceneNode (scene.normalize settings id follower)) := by
  obtain ⟨place, hlast⟩ := h.exists_isLast
  exact ⟨_, get?_scene_compile settings hlast⟩

theorem name?_of_mem_duplicates {positions : List Nat}
    (h : .duplicateId id positions ∈ (draft.lint settings).issues)
    (hposition : position ∈ positions) :
    ∃ scene, draft.scenes[position]? = some scene ∧ scene.name? = some id := by
  rw [(duplicateId_mem_lint_iff.mp h).1] at hposition
  exact mem_positionsOf.mp hposition

/-- A report accounts for every scene. Scenes without an id are reported at their positions. An id
that occurs more than once is reported once, with all its positions in order, and the scene at the
last of them is the one that is used; no other id is reported as repeated. No position is reported
twice, and the positions that are not reported as lost are those of the labels. The findings on ids
stand together in the byte order of the ids, and no finding is repeated. -/
theorem lint_accounts (settings : Settings) (draft : Draft) :
    (∀ position, .sceneWithoutId position ∈ (draft.lint settings).issues ↔
        ∃ scene, draft.scenes[position]? = some scene ∧
          (scene.id = none ∨ scene.id = some "")) ∧
      (∀ id, 1 < (draft.scenes.countP fun scene ↦ scene.name? = some id) →
        ∃ positions,
          (draft.lint settings).issues.filterMap (Issue.duplicatesOf? id) = [positions] ∧
          draft.OccursAt id positions ∧
          ∃ position scene follower, positions.getLast? = some position ∧
            draft.scenes[position]? = some scene ∧
            (draft.compile settings).get? (.scene id) =
              some ((draft.normalize settings).sceneNode
                (scene.normalize settings id follower))) ∧
      (∀ id positions, .duplicateId id positions ∈ (draft.lint settings).issues →
        1 < draft.scenes.countP fun scene ↦ scene.name? = some id) ∧
      (∀ id positions position, .duplicateId id positions ∈ (draft.lint settings).issues →
        position ∈ positions → .sceneWithoutId position ∉ (draft.lint settings).issues ∧
          ∀ other positions', .duplicateId other positions' ∈ (draft.lint settings).issues →
            position ∈ positions' → other = id) ∧
      draft.scenes.length =
        ((draft.lint settings).issues.filterMap Issue.unnamedPosition?).length +
          ((draft.compile settings).labels.filterMap Label.sceneId?).length +
          (((draft.lint settings).issues.filterMap Issue.duplicates?).map fun positions ↦
            positions.length - 1).sum ∧
      ((draft.lint settings).issues.filter fun issue ↦ issue.part = .ids) <:+:
        (draft.lint settings).issues ∧
      (((draft.lint settings).issues.filter fun issue ↦ issue.part = .ids).map
        Issue.subject).Pairwise (fun id other ↦ id = other ∨ Text.Precedes id other) ∧
      (draft.lint settings).issues.Nodup := by
  refine ⟨?_, ?_, ?_, ?_, length_scenes_eq_add settings draft, ?_,
    pairwise_subject_lint settings draft, nodup_issues_lint settings draft⟩
  · intro position
    rw [sceneWithoutId_mem_lint_iff]
    simp only [name?_eq_none_iff]
  · intro id hcount
    rw [← count_ids] at hcount
    refine ⟨draft.positionsOf id, filterMap_duplicatesOf?_lint settings hcount,
      occursAt_positionsOf draft id, ?_⟩
    have hne : draft.positionsOf id ≠ [] := by
      intro hnil
      have hlength := length_positionsOf draft id
      rw [hnil, List.length_nil] at hlength
      omega
    have hlast := List.getLast?_eq_some_getLast hne
    obtain ⟨scene, hused⟩ := exists_isUsed_of_getLast? hlast
    obtain ⟨follower, hnode⟩ := hused.exists_get?_compile settings
    exact ⟨_, scene, follower, hlast, hused.found, hnode⟩
  · intro id positions h
    rw [← count_ids]
    exact (duplicateId_mem_lint_iff.mp h).2
  · intro id positions position h hposition
    obtain ⟨scene, hfound, hname⟩ := name?_of_mem_duplicates h hposition
    constructor
    · intro hunnamed
      obtain ⟨scene', hfound', hname'⟩ := sceneWithoutId_mem_lint_iff.mp hunnamed
      cases hfound.symm.trans hfound'
      cases hname.symm.trans hname'
    · intro other positions' h' hposition'
      obtain ⟨scene', hfound', hname'⟩ := name?_of_mem_duplicates h' hposition'
      cases hfound.symm.trans hfound'
      exact Option.some.inj (hname'.symm.trans hname)
  · rw [filter_ids_lint]
    exact ⟨_, _, by rw [lint, ← List.append_assoc, ← List.append_assoc]⟩

theorem lint_accounts_tangledDraft :
    1 < (tangledDraft.scenes.countP fun scene ↦ scene.name? = some "gate") ∧
      (∃ positions, (tangledDraft.lint {}).issues.filterMap (Issue.duplicatesOf? "gate") =
        [positions] ∧ tangledDraft.OccursAt "gate" positions) ∧
      .duplicateId "gate" [0, 3] ∈ (tangledDraft.lint {}).issues ∧
      .sceneWithoutId 3 ∉ (tangledDraft.lint {}).issues := by
  obtain ⟨_, hrepeated, _, hdisjoint, _⟩ := lint_accounts {} tangledDraft
  have hcount : 1 < tangledDraft.scenes.countP fun scene ↦ scene.name? = some "gate" := by decide
  obtain ⟨positions, hpositions, hoccurs, _⟩ := hrepeated "gate" hcount
  have hgate : .duplicateId "gate" [0, 3] ∈ (tangledDraft.lint {}).issues :=
    duplicateId_mem_lint_iff.mpr ⟨by decide, by decide⟩
  exact ⟨hcount, ⟨positions, hpositions, hoccurs⟩, hgate, (hdisjoint _ _ 3 hgate (by decide)).1⟩

end Draft

end StoryGraph
