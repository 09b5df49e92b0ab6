import Mathlib.Data.List.Nodup
import StoryGraph.Lint.Check
import StoryGraph.Proofs.Labels

namespace StoryGraph

section Lists

variable {α β κ : Type}

/-- Rows are joined without repetition if each item tells which row it is from. -/
theorem nodup_flatMap_of_key {items : List α} {rows : α → List β} (key : β → κ) (name : α → κ)
    (hitems : (items.map name).Nodup) (hrows : ∀ item ∈ items, (rows item).Nodup)
    (hkey : ∀ item ∈ items, ∀ row ∈ rows item, key row = name item) :
    (items.flatMap rows).Nodup := by
  rw [List.nodup_flatMap]
  refine ⟨hrows, List.Pairwise.imp_of_mem ?_ (List.pairwise_map.mp hitems)⟩
  intro item other hitem hother hne row hrow hrow'
  have hitemKey := hkey item hitem row hrow
  have hotherKey := hkey other hother row hrow'
  exact hne (hitemKey.symm.trans hotherKey)

theorem filterMap_flatMap_of_key {γ : Type} {items : List γ} {rows : γ → List α} (key : α → κ)
    (name : γ → κ) {choose : α → Option β} {item : γ} (hitems : (items.map name).Nodup)
    (hitem : item ∈ items) (hrows : ∀ other ∈ items, ∀ row ∈ rows other, key row = name other)
    (hchoose : ∀ row result, choose row = some result → key row = name item) :
    (items.flatMap rows).filterMap choose = (rows item).filterMap choose := by
  have hother : ∀ other ∈ items, name other ≠ name item → (rows other).filterMap choose = [] := by
    intro other hmem hne
    rw [List.filterMap_eq_nil_iff]
    intro row hrow
    rw [Option.eq_none_iff_forall_ne_some]
    intro result hresult
    exact hne ((hrows other hmem row hrow).symm.trans (hchoose row result hresult))
  obtain ⟨before, after, rfl⟩ := List.append_of_mem hitem
  rw [List.map_append, List.map_cons, List.nodup_append, List.nodup_cons] at hitems
  have hbefore : (before.flatMap rows).filterMap choose = [] := by
    rw [List.filterMap_flatMap, List.flatMap_eq_nil_iff]
    intro other hmem
    refine hother other (List.mem_append_left _ hmem) ?_
    exact hitems.2.2 _ (List.mem_map_of_mem hmem) _ List.mem_cons_self
  have hafter : (after.flatMap rows).filterMap choose = [] := by
    rw [List.filterMap_flatMap, List.flatMap_eq_nil_iff]
    intro other hmem
    refine hother other (List.mem_append_right _ (List.mem_cons_of_mem _ hmem)) ?_
    intro heq
    exact hitems.2.1.1 (heq ▸ List.mem_map_of_mem hmem)
  rw [List.flatMap_append, List.flatMap_cons, List.filterMap_append, List.filterMap_append,
    hbefore, hafter, List.append_nil, List.nil_append]

/-- Numbered items are chosen without repetition if each choice tells its number. -/
theorem nodup_filterMap_zipIdx {items : List α} {choose : α × Nat → Option β}
    (hchoose : ∀ entry other result, choose entry = some result → choose other = some result →
      entry.2 = other.2) : (items.zipIdx.filterMap choose).Nodup := by
  have hnumbers : items.zipIdx.Pairwise fun entry other ↦ entry.2 ≠ other.2 := by
    rw [← List.pairwise_map (f := Prod.snd) (R := (· ≠ ·)), List.zipIdx_map_snd]
    exact List.nodup_range'
  apply List.pairwise_filterMap.mpr
  apply hnumbers.imp
  intro entry other hne result hresult result' hresult' heq
  rw [← heq] at hresult'
  exact hne (hchoose _ _ _ hresult hresult')

theorem nodup_append_ite {items : List α} {item : α} {p : Prop} [Decidable p]
    (hitems : items.Nodup) (hitem : item ∉ items) : (items ++ if p then [item] else []).Nodup := by
  split_ifs
  · apply hitems.append (List.nodup_singleton item)
    rw [List.disjoint_singleton]
    exact hitem
  · simpa using hitems

end Lists

namespace Issue

inductive Part where
  | version
  | unnamed
  | ids
  | start
  | scenes
  | reachability
  deriving DecidableEq

def part : Issue → Part
  | versionMismatch _ => .version
  | sceneWithoutId _ => .unnamed
  | duplicateId .. | reservedId _ | idTooLong .. => .ids
  | unknownStart _ => .start
  | danglingNext .. | danglingChoice .. | emptyScene _ | tooManyLines .. | tooManyChoices ..
  | textTooLong .. => .scenes
  | unreachableScene _ => .reachability

def subject : Issue → String
  | duplicateId id _ | reservedId id | idTooLong id _ => id
  | danglingNext scene _ | danglingChoice scene .. | emptyScene scene | unreachableScene scene
  | tooManyLines scene .. | tooManyChoices scene .. | textTooLong scene .. => scene
  | versionMismatch _ | sceneWithoutId _ | unknownStart _ => ""

end Issue

namespace Draft

open Occurrence (IsLast)

variable {settings : Settings} {draft : Draft} {id : String} {scene : Scene} {issue : Issue}

/-- A reference is reported if the draft lacks the label that the reference means. -/
theorem missing?_eq_some_iff {reference : Option String} {word : String} :
    draft.missing? reference = some word ↔
      filled reference = some word ∧ ¬ draft.Has (Label.ofWord word) := by
  rw [missing?, Option.filter_eq_some_iff, Label.ofWord_eq]
  refine and_congr_right fun _ ↦ ?_
  cases hword : Label.reserved? word with
  | none => simp [Has, Reference.Available]
  | some reserved =>
    cases reserved with
    | cover => simp [Has, Reference.Available]
    | ending => simp [Has, Reference.Available]
    | scene id => exact absurd hword (Label.reserved?_ne_scene word id)

theorem mem_idIssues_iff :
    issue ∈ draft.idIssues settings id ↔
      (1 < (draft.positionsOf id).length ∧ issue = .duplicateId id (draft.positionsOf id)) ∨
      (Label.isReserved id = true ∧ issue = .reservedId id) ∨
      (settings.limits.maxIdLength < id.utf8ByteSize ∧
        issue = .idTooLong id settings.limits.maxIdLength) := by
  simp only [idIssues, List.mem_append, List.mem_ite_nil_right, List.mem_singleton, or_assoc]

theorem key_of_mem_idIssues (h : issue ∈ draft.idIssues settings id) :
    issue.part = .ids ∧ issue.subject = id := by
  rcases mem_idIssues_iff.mp h with ⟨_, rfl⟩ | ⟨_, rfl⟩ | ⟨_, rfl⟩ <;> exact ⟨rfl, rfl⟩

theorem mem_sortedIds : id ∈ draft.sortedIds ↔ id ∈ draft.ids := by
  rw [sortedIds, List.mem_mergeSort, Occurrence.mem_distinct]

theorem nodup_idIssues (settings : Settings) (draft : Draft) (id : String) :
    (draft.idIssues settings id).Nodup := by
  unfold idIssues
  dsimp only
  split_ifs <;> simp

theorem nodup_sortedIds (draft : Draft) : draft.sortedIds.Nodup :=
  (List.mergeSort_perm _ _).nodup_iff.mpr (Occurrence.nodup_distinct draft.ids)

theorem mem_sceneIssues_iff :
    issue ∈ draft.sceneIssues settings id scene ↔
      (∃ target, draft.missing? scene.next = some target ∧ issue = .danglingNext id target) ∨
      (∃ index choice target, scene.choices[index]? = some choice ∧
        draft.missing? choice.next = some target ∧ issue = .danglingChoice id index target) ∨
      ((scene.dialogue = [] ∧ scene.choices = []) ∧ issue = .emptyScene id) ∨
      (settings.limits.maxLinesPerScene < scene.dialogue.length ∧
        issue = .tooManyLines id scene.dialogue.length settings.limits.maxLinesPerScene) ∨
      (settings.limits.maxChoicesPerScene < scene.choices.length ∧
        issue = .tooManyChoices id scene.choices.length settings.limits.maxChoicesPerScene) ∨
      (settings.limits.maxTextLength < scene.longest ∧
        issue = .textTooLong id scene.longest settings.limits.maxTextLength) := by
  have hchoices : (∃ entry ∈ scene.choices.zipIdx,
      (draft.missing? entry.1.next).map (Issue.danglingChoice id entry.2) = some issue) ↔
      ∃ index choice target, scene.choices[index]? = some choice ∧
        draft.missing? choice.next = some target ∧ issue = .danglingChoice id index target := by
    constructor
    · intro h
      obtain ⟨⟨choice, index⟩, hentry, hissue⟩ := h
      obtain ⟨target, htarget, rfl⟩ := Option.map_eq_some_iff.mp hissue
      exact ⟨index, choice, target, List.mem_zipIdx_iff_getElem?.mp hentry, htarget, rfl⟩
    · intro h
      obtain ⟨index, choice, target, hchoice, htarget, rfl⟩ := h
      refine ⟨(choice, index), List.mem_zipIdx_iff_getElem?.mpr hchoice, ?_⟩
      rw [htarget]
      rfl
  simp only [sceneIssues, List.mem_append, List.mem_ite_nil_right, List.mem_singleton,
    Option.mem_toList, Option.map_eq_some_iff, List.mem_filterMap, or_assoc, Bool.and_eq_true,
    List.isEmpty_iff] at hchoices ⊢
  rw [hchoices]
  simp only [eq_comm (a := issue)]

theorem key_of_mem_sceneIssues (h : issue ∈ draft.sceneIssues settings id scene) :
    issue.part = .scenes ∧ issue.subject = id := by
  rcases mem_sceneIssues_iff.mp h with
    ⟨_, _, rfl⟩ | ⟨_, _, _, _, _, rfl⟩ | ⟨_, rfl⟩ | ⟨_, rfl⟩ | ⟨_, rfl⟩ | ⟨_, rfl⟩ <;>
    exact ⟨rfl, rfl⟩

theorem nodup_sceneIssues (settings : Settings) (draft : Draft) (id : String) (scene : Scene) :
    (draft.sceneIssues settings id scene).Nodup := by
  have hchoices : (scene.choices.zipIdx.filterMap fun entry ↦
      (draft.missing? entry.1.next).map (Issue.danglingChoice id entry.2)).Nodup := by
    apply nodup_filterMap_zipIdx
    intro entry other result hentry hother
    obtain ⟨_, _, rfl⟩ := Option.map_eq_some_iff.mp hentry
    obtain ⟨_, _, heq⟩ := Option.map_eq_some_iff.mp hother
    exact (Issue.danglingChoice.inj heq).2.1.symm
  have hreferences : (((draft.missing? scene.next).map (Issue.danglingNext id)).toList ++
      scene.choices.zipIdx.filterMap fun entry ↦
        (draft.missing? entry.1.next).map (Issue.danglingChoice id entry.2)).Nodup := by
    apply (Option.toList_nodup _).append hchoices
    intro issue hissue hissue'
    obtain ⟨_, _, rfl⟩ := Option.map_eq_some_iff.mp (Option.mem_toList.mp hissue)
    obtain ⟨_, _, heq⟩ := List.mem_filterMap.mp hissue'
    obtain ⟨_, _, heq⟩ := Option.map_eq_some_iff.mp heq
    cases heq
  -- Each remaining finding has a form of its own, so it is none of those before it.
  exact nodup_append_ite (nodup_append_ite (nodup_append_ite (nodup_append_ite hreferences
    (by simp)) (by simp)) (by simp)) (by simp)

theorem usedSceneIssues_eq_flatMap (settings : Settings) (draft : Draft)
    (items : List (String × Scene)) : draft.usedSceneIssues settings items =
      (Occurrence.finals items).flatMap fun entry ↦
        draft.sceneIssues settings entry.1 entry.2 := by
  induction items with
  | nil => rfl
  | cons head items ih =>
    have hany : (items.any fun later ↦ later.1 == head.1) = true ↔
        head.1 ∈ items.map Prod.fst := by simp
    rw [usedSceneIssues, Occurrence.finals, ih]
    by_cases hmem : head.1 ∈ items.map Prod.fst
    · rw [if_pos (hany.mpr hmem), if_pos hmem, List.nil_append]
    · rw [if_neg (mt hany.mp hmem), if_neg hmem, List.flatMap_cons]

/-- The findings on scenes are those on the last scene under each id. -/
theorem mem_usedSceneIssues_iff {items : List (String × Scene)} :
    issue ∈ draft.usedSceneIssues settings items ↔ ∃ position id scene,
      IsLast items position id scene ∧ issue ∈ draft.sceneIssues settings id scene := by
  rw [usedSceneIssues_eq_flatMap, List.mem_flatMap]
  constructor
  · intro h
    obtain ⟨⟨id, scene⟩, hentry, hissue⟩ := h
    obtain ⟨position, hlast⟩ := Occurrence.mem_finals_iff.mp hentry
    exact ⟨position, id, scene, hlast, hissue⟩
  · intro h
    obtain ⟨position, id, scene, hlast, hissue⟩ := h
    exact ⟨(id, scene), Occurrence.mem_finals_iff.mpr ⟨position, hlast⟩, hissue⟩

theorem nodup_usedSceneIssues (settings : Settings) (draft : Draft)
    (items : List (String × Scene)) : (draft.usedSceneIssues settings items).Nodup := by
  rw [usedSceneIssues_eq_flatMap]
  exact nodup_flatMap_of_key Issue.subject Prod.fst (Occurrence.nodup_map_fst_finals items)
    (fun entry _ ↦ nodup_sceneIssues settings draft entry.1 entry.2)
    fun _ _ _ h ↦ (key_of_mem_sceneIssues h).2

theorem mem_versionIssues_iff :
    issue ∈ draft.versionIssues ↔ ∃ version, draft.version = some version ∧
      version ≠ currentVersion ∧ issue = .versionMismatch version := by
  unfold versionIssues
  cases draft.version with
  | none => simp
  | some version => by_cases hversion : version = currentVersion <;> simp [hversion]

theorem nodup_versionIssues (draft : Draft) : draft.versionIssues.Nodup := by
  unfold versionIssues
  split
  · split_ifs <;> simp
  · simp

theorem mem_startIssues_iff :
    issue ∈ draft.startIssues ↔ ∃ target, filled draft.startScene = some target ∧
      target ∉ draft.ids ∧ issue = .unknownStart target := by
  unfold startIssues
  cases filled draft.startScene with
  | none => simp
  | some target => by_cases htarget : target ∈ draft.ids <;> simp [htarget]

theorem nodup_startIssues (draft : Draft) : draft.startIssues.Nodup := by
  unfold startIssues
  split
  · split_ifs <;> simp
  · simp

theorem nodup_unnamedPositions (draft : Draft) : draft.unnamedPositions.Nodup := by
  apply nodup_filterMap_zipIdx
  intro entry other result h h'
  dsimp only at h h'
  split_ifs at h h'
  exact (Option.some.inj h).trans (Option.some.inj h').symm

theorem nodup_reachabilityIssues (settings : Settings) (draft : Draft) :
    (draft.reachabilityIssues settings).Nodup := by
  have hunreachable : (draft.compile settings).unreachable.Nodup := by
    unfold Graph.unreachable
    exact (nodup_labels_compile settings draft).filter _
  apply hunreachable.filterMap
  intro label other issue h h'
  obtain ⟨_, hlabel, rfl⟩ := Option.map_eq_some_iff.mp h
  obtain ⟨_, hother, heq⟩ := Option.map_eq_some_iff.mp h'
  cases heq
  cases label <;> cases other <;> simp_all [Label.sceneId?]

def issuesOf (settings : Settings) (draft : Draft) : Issue.Part → List Issue
  | .version => draft.versionIssues
  | .unnamed => draft.unnamedPositions.map .sceneWithoutId
  | .ids => draft.sortedIds.flatMap (draft.idIssues settings)
  | .start => draft.startIssues
  | .scenes => draft.usedSceneIssues settings draft.named
  | .reachability => draft.reachabilityIssues settings

theorem issues_lint (settings : Settings) (draft : Draft) :
    (draft.lint settings).issues =
      [.version, .unnamed, .ids, .start, .scenes, .reachability].flatMap
        (draft.issuesOf settings) := by
  simp [lint, issuesOf]

theorem part_of_mem_issuesOf {part : Issue.Part} (h : issue ∈ draft.issuesOf settings part) :
    issue.part = part := by
  cases part with
  | version =>
    obtain ⟨_, _, _, rfl⟩ := mem_versionIssues_iff.mp h
    rfl
  | unnamed =>
    obtain ⟨_, _, rfl⟩ := List.mem_map.mp h
    rfl
  | ids =>
    obtain ⟨_, _, hissue⟩ := List.mem_flatMap.mp h
    exact (key_of_mem_idIssues hissue).1
  | start =>
    obtain ⟨_, _, _, rfl⟩ := mem_startIssues_iff.mp h
    rfl
  | scenes =>
    obtain ⟨_, _, _, _, hissue⟩ := mem_usedSceneIssues_iff.mp h
    exact (key_of_mem_sceneIssues hissue).1
  | reachability =>
    obtain ⟨_, _, hissue⟩ := List.mem_filterMap.mp h
    obtain ⟨_, _, rfl⟩ := Option.map_eq_some_iff.mp hissue
    rfl

theorem filterMap_issues_lint {α : Type} {choose : Issue → Option α} {part : Issue.Part}
    (hchoose : ∀ issue result, choose issue = some result → issue.part = part) :
    (draft.lint settings).issues.filterMap choose =
      (draft.issuesOf settings part).filterMap choose := by
  rw [issues_lint]
  exact filterMap_flatMap_of_key Issue.part id (by decide) (by cases part <;> decide)
    (fun _ _ _ h ↦ part_of_mem_issuesOf h) hchoose

/-- A finding stands in a report if and only if it stands in its own part. -/
theorem mem_issues_lint_iff :
    issue ∈ (draft.lint settings).issues ↔ issue ∈ draft.issuesOf settings issue.part := by
  rw [issues_lint, List.mem_flatMap]
  constructor
  · intro h
    obtain ⟨part, _, hissue⟩ := h
    rw [part_of_mem_issuesOf hissue]
    exact hissue
  · intro h
    refine ⟨issue.part, ?_, h⟩
    cases issue.part <;> decide

theorem mem_issues_lint_iff_of_ids (h : issue.part = .ids) :
    issue ∈ (draft.lint settings).issues ↔
      issue.subject ∈ draft.ids ∧ issue ∈ draft.idIssues settings issue.subject := by
  rw [mem_issues_lint_iff, h, issuesOf, List.mem_flatMap]
  constructor
  · intro hissue
    obtain ⟨id, hid, hissue⟩ := hissue
    rw [(key_of_mem_idIssues hissue).2]
    exact ⟨mem_sortedIds.mp hid, hissue⟩
  · intro hissue
    exact ⟨issue.subject, mem_sortedIds.mpr hissue.1, hissue.2⟩

theorem mem_issues_lint_iff_of_scenes (h : issue.part = .scenes) :
    issue ∈ (draft.lint settings).issues ↔ ∃ position scene,
      IsLast draft.named position issue.subject scene ∧
        issue ∈ draft.sceneIssues settings issue.subject scene := by
  rw [mem_issues_lint_iff, h, issuesOf, mem_usedSceneIssues_iff]
  constructor
  · intro hissue
    obtain ⟨position, id, scene, hlast, hissue⟩ := hissue
    rw [(key_of_mem_sceneIssues hissue).2]
    exact ⟨position, scene, hlast, hissue⟩
  · intro hissue
    obtain ⟨position, scene, hlast, hissue⟩ := hissue
    exact ⟨position, issue.subject, scene, hlast, hissue⟩

theorem nodup_issuesOf (settings : Settings) (draft : Draft) (part : Issue.Part) :
    (draft.issuesOf settings part).Nodup := by
  cases part with
  | version => exact nodup_versionIssues draft
  | unnamed => exact (nodup_unnamedPositions draft).map fun _ _ h ↦ Issue.sceneWithoutId.inj h
  | ids =>
    exact nodup_flatMap_of_key Issue.subject id (by simpa using nodup_sortedIds draft)
      (fun id _ ↦ nodup_idIssues settings draft id) fun _ _ _ h ↦ (key_of_mem_idIssues h).2
  | start => exact nodup_startIssues draft
  | scenes => exact nodup_usedSceneIssues settings draft draft.named
  | reachability => exact nodup_reachabilityIssues settings draft

/-- A report never repeats a finding. -/
theorem nodup_issues_lint (settings : Settings) (draft : Draft) :
    (draft.lint settings).issues.Nodup := by
  rw [issues_lint]
  exact nodup_flatMap_of_key Issue.part id (by decide)
    (fun part _ ↦ nodup_issuesOf settings draft part) fun _ _ _ h ↦ part_of_mem_issuesOf h

end Draft

end StoryGraph
