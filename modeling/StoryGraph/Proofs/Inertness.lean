import StoryGraph.Proofs.Accounting
import StoryGraph.Proofs.Edits

namespace StoryGraph

namespace Issue

/-- A finding without the positions it tells. One that tells nothing but a position is left out. -/
def withoutPositions? : Issue → Option Issue
  | sceneWithoutId _ => none
  | duplicateId id positions => some (duplicateId id (positions.map fun _ ↦ 0))
  | issue => some issue

end Issue

namespace Draft

variable {settings : Settings} {draft other : Draft} {position : Nat} {id : String}
  {scene replacement : Scene}

/-- The drafts use the same scenes, each followed by the same id. -/
structure SameUse (draft other : Draft) : Prop extends SameOutline draft other where
  lasts : Occurrence.lasts other.named = Occurrence.lasts draft.named
  finals : Occurrence.finals other.named = Occurrence.finals draft.named

theorem SameOutline.missing? (h : SameOutline draft other) {reference : Option String} :
    other.missing? reference = draft.missing? reference := by
  rw [Draft.missing?, Draft.missing?, h.ids, h.hasEnding]

theorem SameOutline.sceneIssues (h : SameOutline draft other) (settings : Settings) (id : String)
    (scene : Scene) :
    other.sceneIssues settings id scene = draft.sceneIssues settings id scene := by
  simp only [Draft.sceneIssues, h.missing?]

theorem SameOutline.sortedIds (h : SameOutline draft other) :
    other.sortedIds = draft.sortedIds := by
  rw [Draft.sortedIds, Draft.sortedIds, h.ids]

namespace SameUse

theorem of_named (houtline : SameOutline draft other) (hnamed : other.named = draft.named) :
    SameUse draft other :=
  ⟨houtline, by rw [hnamed], by rw [hnamed]⟩

theorem compile (h : SameUse draft other) (settings : Settings) :
    other.compile settings = draft.compile settings := by
  have hnormalize : other.normalize settings = draft.normalize settings := by
    rw [normalize, normalize, mergedScenes_eq_map, mergedScenes_eq_map, h.lasts, h.startLabel,
      h.cover, h.ending]
  rw [Draft.compile, Draft.compile, hnormalize]

theorem issuesOf (h : SameUse draft other) (settings : Settings) {part : Issue.Part}
    (hunnamed : part ≠ .unnamed) (hids : part ≠ .ids) :
    other.issuesOf settings part = draft.issuesOf settings part := by
  cases part with
  | version =>
    change other.versionIssues = draft.versionIssues
    rw [versionIssues, versionIssues, h.version]
  | unnamed => exact absurd rfl hunnamed
  | ids => exact absurd rfl hids
  | start =>
    change other.startIssues = draft.startIssues
    rw [startIssues, startIssues, h.startScene, h.ids]
  | scenes =>
    change other.usedSceneIssues settings other.named = draft.usedSceneIssues settings draft.named
    rw [usedSceneIssues_eq_flatMap, usedSceneIssues_eq_flatMap, h.finals]
    simp only [h.sceneIssues]
  | reachability =>
    change other.reachabilityIssues settings = draft.reachabilityIssues settings
    rw [reachabilityIssues, reachabilityIssues, h.compile]

end SameUse

theorem findIdxs_name?_eq (draft : Draft) (name : Option String) :
    draft.scenes.findIdxs (fun scene ↦ scene.name? = name) =
      (draft.scenes.map Scene.id).findIdxs fun text ↦ filled text = name := by
  rw [List.findIdxs_map]
  rfl

theorem SameUse.issues_lint (h : SameUse draft other) (settings : Settings)
    (hids : other.scenes.map Scene.id = draft.scenes.map Scene.id) :
    (other.lint settings).issues = (draft.lint settings).issues := by
  have hidIssues : other.idIssues settings = draft.idIssues settings := by
    funext id
    rw [idIssues, idIssues, positionsOf_eq_findIdxs, positionsOf_eq_findIdxs, findIdxs_name?_eq,
      findIdxs_name?_eq, hids]
  rw [Draft.issues_lint, Draft.issues_lint]
  apply List.flatMap_congr
  intro part _
  by_cases hunnamed : part = .unnamed
  · subst hunnamed
    simp only [Draft.issuesOf, unnamedPositions_eq_findIdxs, findIdxs_name?_eq, hids]
  · by_cases hpart : part = .ids
    · subst hpart
      simp only [Draft.issuesOf, hidIssues, h.sortedIds]
    · exact h.issuesOf settings hunnamed hpart

theorem map_id_withScene (hfound : draft.scenes[position]? = some scene)
    (hid : replacement.id = scene.id) :
    (draft.withScene position replacement).scenes.map Scene.id = draft.scenes.map Scene.id := by
  obtain ⟨before, after, hdraft, hedited, _⟩ := exists_scenes_withScene hfound replacement
  rw [hdraft, hedited, List.map_append, List.map_append, List.map_cons, List.map_cons, hid]

theorem sameUse_withScene (hfound : draft.scenes[position]? = some scene)
    (hid : replacement.id = scene.id)
    (hunused : ∀ id, scene.name? = some id → draft.OccursAfter position id) :
    SameUse draft (draft.withScene position replacement) := by
  have houtline := sameOutline_withScene hfound hid
  cases hname : scene.name? with
  | none =>
    have hname' : replacement.name? = none := by
      rw [Scene.name?, hid]
      exact hname
    obtain ⟨before, after, hdraft, hedited, _⟩ := exists_scenes_withScene hfound replacement
    apply SameUse.of_named houtline
    simp only [named, hdraft, hedited, List.filterMap_append, List.filterMap_cons, hname, hname',
      Option.map_none]
  | some id =>
    obtain ⟨before, after, hdraft, hedited, hafter⟩ := exists_named_withScene hfound hname hid
    have hagain := hafter.mpr (hunused id hname)
    refine ⟨houtline, ?_, ?_⟩
    · rw [hdraft, hedited, Occurrence.lasts_overwritten hagain]
    · rw [hdraft, hedited, Occurrence.finals_overwritten hagain]

/-- Scenes without an id are put in and taken out anywhere; all others stay, in their order. -/
inductive Padded : List Scene → List Scene → Prop
  | nil : Padded [] []
  | keep (scene : Scene) {scenes others : List Scene} :
    Padded scenes others → Padded (scene :: scenes) (scene :: others)
  | insert {scene : Scene} {scenes others : List Scene} :
    scene.name? = none → Padded scenes others → Padded scenes (scene :: others)
  | delete {scene : Scene} {scenes others : List Scene} :
    scene.name? = none → Padded scenes others → Padded (scene :: scenes) others

theorem Padded.filterMap_eq {scenes others : List Scene} (h : Padded scenes others) :
    (others.filterMap fun scene ↦ scene.name?.map (·, scene)) =
      scenes.filterMap fun scene ↦ scene.name?.map (·, scene) := by
  induction h with
  | nil => rfl
  | keep scene _ ih => rw [List.filterMap_cons, List.filterMap_cons, ih]
  | insert hname _ ih => rw [List.filterMap_cons, hname, Option.map_none, ih]
  | delete hname _ ih => rw [List.filterMap_cons, hname, Option.map_none, ih]

theorem Padded.sameUse {scenes : List Scene} (h : Padded draft.scenes scenes) :
    SameUse draft { draft with scenes } := by
  have hnamed : { draft with scenes }.named = draft.named := h.filterMap_eq
  exact SameUse.of_named ⟨rfl, rfl, congrArg (List.map Prod.fst) hnamed, rfl, rfl⟩ hnamed

theorem filterMap_unnamed (settings : Settings) (draft : Draft) :
    (draft.issuesOf settings .unnamed).filterMap Issue.withoutPositions? = [] := by
  rw [List.filterMap_eq_nil_iff]
  intro issue hissue
  obtain ⟨_, _, rfl⟩ := List.mem_map.mp hissue
  rfl

theorem filterMap_idIssues (settings : Settings) (draft : Draft) (id : String) :
    (draft.idIssues settings id).filterMap Issue.withoutPositions? =
      (if 1 < draft.ids.count id then
        [.duplicateId id (List.replicate (draft.ids.count id) 0)] else []) ++
      (if Label.isReserved id then [.reservedId id] else []) ++
      (if settings.limits.maxIdLength < id.utf8ByteSize then
        [.idTooLong id settings.limits.maxIdLength] else []) := by
  rw [idIssues, ← length_positionsOf]
  simp only [List.filterMap_append]
  split_ifs <;> simp [Issue.withoutPositions?, List.map_const']

theorem Padded.issues_lint (settings : Settings) {scenes : List Scene}
    (h : Padded draft.scenes scenes) :
    (lint settings { draft with scenes }).issues.filterMap Issue.withoutPositions? =
      (draft.lint settings).issues.filterMap Issue.withoutPositions? := by
  have huse := h.sameUse
  rw [Draft.issues_lint, Draft.issues_lint, List.filterMap_flatMap, List.filterMap_flatMap]
  apply List.flatMap_congr
  intro part _
  by_cases hunnamed : part = .unnamed
  · subst hunnamed
    rw [filterMap_unnamed, filterMap_unnamed]
  · by_cases hids : part = .ids
    · subst hids
      simp only [issuesOf, List.filterMap_flatMap, filterMap_idIssues, huse.sortedIds, huse.ids]
    · rw [huse.issuesOf settings hunnamed hids]

/-- No scene has an influence unless it is the last one under its id. Where another one is changed
and keeps its id, the graph and the report stay as they are. Where scenes without an id come and go,
the graph stays, and so does the report apart from the positions it tells. -/
theorem unused_scenes_inert (settings : Settings) (draft : Draft) :
    (∀ position (scene replacement : Scene), draft.scenes[position]? = some scene →
      replacement.id = scene.id →
      (∀ id, scene.name? = some id → draft.OccursAfter position id) →
        (draft.withScene position replacement).compile settings = draft.compile settings ∧
          (draft.withScene position replacement).lint settings = draft.lint settings) ∧
      (∀ scenes, Padded draft.scenes scenes →
        compile settings { draft with scenes } = draft.compile settings ∧
          (lint settings { draft with scenes }).issues.filterMap Issue.withoutPositions? =
            (draft.lint settings).issues.filterMap Issue.withoutPositions?) := by
  constructor
  · intro position scene replacement hfound hid hunused
    have huse := sameUse_withScene hfound hid hunused
    have hissues := huse.issues_lint settings (map_id_withScene hfound hid)
    exact ⟨huse.compile settings, congrArg Report.mk hissues⟩
  · intro scenes h
    exact ⟨h.sameUse.compile settings, h.issues_lint settings⟩

theorem unused_scenes_inert_tangledDraft :
    (tangledDraft.withScene 0 ⟨some "gate", some "fog", none, [], [], none⟩).lint {} =
        tangledDraft.lint {} ∧
      compile {} { tangledDraft with scenes := tangledDraft.scenes.eraseIdx 1 } =
        tangledDraft.compile {} := by
  obtain ⟨hreplaced, hpadded⟩ := unused_scenes_inert {} tangledDraft
  have hunused : ∀ id, some "gate" = some id → tangledDraft.OccursAfter 0 id := by
    rintro _ ⟨rfl⟩
    exact ⟨3, _, by decide, rfl, by decide⟩
  have hdeleted : Padded tangledDraft.scenes (tangledDraft.scenes.eraseIdx 1) :=
    .keep _ (.delete (by decide) (.keep _ (.keep _ .nil)))
  exact ⟨(hreplaced 0 _ ⟨some "gate", some "fog", none, [], [], none⟩ rfl rfl hunused).2,
    (hpadded _ hdeleted).1⟩

end Draft

end StoryGraph
