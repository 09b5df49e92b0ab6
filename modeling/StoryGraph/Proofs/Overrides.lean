import StoryGraph.Proofs.Continuations
import StoryGraph.Proofs.Findings

namespace StoryGraph.Draft

open Occurrence (IsLast)

variable {settings : Settings} {draft : Draft} {id target : String} {position index : Nat}
  {scene : Scene} {choice : Choice}

/-- The last scene under an id says what comes next, and resolution says otherwise. -/
def OverridesNext (settings : Settings) (draft : Draft) (id target : String) : Prop :=
  ∃ position scene, IsLast draft.named position id scene ∧
    scene.next = some target ∧ target ≠ "" ∧
    ∃ merged ∈ (draft.normalize settings).scenes, merged.id = id ∧
      (draft.normalize settings).nextOf merged ≠ Label.ofWord target

/-- A choice of the last scene under an id says where it leads, and its branch leads elsewhere. -/
def OverridesChoice (settings : Settings) (draft : Draft) (id : String) (index : Nat)
    (target : String) : Prop :=
  ∃ position scene choice, IsLast draft.named position id scene ∧
    scene.choices[index]? = some choice ∧ choice.next = some target ∧ target ≠ "" ∧
    ∃ node branches branch, (draft.compile settings).get? (.scene id) = some node ∧
      node.continuation = .menu branches ∧ branches[index]? = some branch ∧
      branch.target ≠ Label.ofWord target

/-- The draft says which scene comes first, and the graph starts elsewhere. -/
def OverridesStart (settings : Settings) (draft : Draft) (target : String) : Prop :=
  draft.startScene = some target ∧ target ≠ "" ∧
    (draft.compile settings).start ≠ some (.scene target)

theorem nextOf_normalize_eq_ofWord_iff (hnext : filled scene.next = some target) :
    (draft.normalize settings).nextOf (draft.scriptScene settings position id scene) =
        Label.ofWord target ↔ draft.Has (Label.ofWord target) := by
  have hfilled : filled (filled scene.next) = some target := (filled_filled _).trans hnext
  exact (Reference.resolve_eq_ofWord_iff hfilled).trans available_normalize

theorem choiceTarget_eq_ofWord_iff (hnext : filled choice.next = some target) :
    draft.choiceTarget position scene choice = Label.ofWord target ↔
      draft.Has (Label.ofWord target) := by
  have hfilled : filled (filled choice.next) = some target := (filled_filled _).trans hnext
  rw [← target_normalize {} ""]
  exact (Reference.resolve_eq_ofWord_iff hfilled).trans available_normalize

theorem missing?_iff {reference : Option String} :
    draft.missing? reference = some target ↔
      reference = some target ∧ target ≠ "" ∧ ¬ draft.Has (Label.ofWord target) := by
  rw [missing?_eq_some_iff, filled_eq_some_iff, and_assoc]

theorem danglingNext_mem_lint_iff :
    .danglingNext id target ∈ (draft.lint settings).issues ↔
      ∃ position scene, IsLast draft.named position id scene ∧
        draft.missing? scene.next = some target := by
  rw [mem_issues_lint_iff_of_scenes rfl]
  simp [mem_sceneIssues_iff, Issue.subject]

theorem danglingChoice_mem_lint_iff :
    .danglingChoice id index target ∈ (draft.lint settings).issues ↔
      ∃ position scene choice, IsLast draft.named position id scene ∧
        scene.choices[index]? = some choice ∧ draft.missing? choice.next = some target := by
  rw [mem_issues_lint_iff_of_scenes rfl]
  simp [mem_sceneIssues_iff, Issue.subject]

theorem overridesNext_iff :
    draft.OverridesNext settings id target ↔ ∃ position scene,
      IsLast draft.named position id scene ∧ draft.missing? scene.next = some target := by
  refine exists_congr fun position ↦ exists_congr fun scene ↦ and_congr_right fun hlast ↦ ?_
  rw [missing?_iff]
  refine and_congr_right fun hnext ↦ and_congr_right fun hne ↦ ?_
  have hfilled := filled_eq_some_iff.mpr ⟨hnext, hne⟩
  constructor
  · intro h hhas
    obtain ⟨merged, hmerged, rfl, hoverridden⟩ := h
    -- Only one scene is last under the id, so the merged scene is made from the one at hand.
    obtain ⟨position', scene', hlast', heq⟩ := mem_mergedScenes_iff.mp hmerged
    obtain ⟨rfl, rfl⟩ := hlast.unique hlast'
    rw [heq] at hoverridden
    exact hoverridden ((nextOf_normalize_eq_ofWord_iff hfilled).mpr hhas)
  · intro hmissing
    refine ⟨_, scriptScene_mem settings hlast, rfl, ?_⟩
    intro heq
    exact hmissing ((nextOf_normalize_eq_ofWord_iff hfilled).mp heq)

theorem overridesChoice_iff :
    draft.OverridesChoice settings id index target ↔ ∃ position scene choice,
      IsLast draft.named position id scene ∧ scene.choices[index]? = some choice ∧
        draft.missing? choice.next = some target := by
  refine exists_congr fun position ↦ exists_congr fun scene ↦ exists_congr fun choice ↦
    and_congr_right fun hlast ↦ and_congr_right fun hchoice ↦ ?_
  rw [missing?_iff]
  refine and_congr_right fun hnext ↦ and_congr_right fun hne ↦ ?_
  have hfilled := filled_eq_some_iff.mpr ⟨hnext, hne⟩
  have hget := get?_scene_compile settings hlast
  obtain ⟨branches, hmenu, _, hbranches⟩ := exists_menu_of_choices settings draft position id
    (List.ne_nil_of_mem (List.mem_of_getElem? hchoice))
  have hbranch := hbranches index choice hchoice
  constructor
  · intro h hhas
    obtain ⟨node, branches', branch, hnode, hmenu', hbranch', hoverridden⟩ := h
    cases hget.symm.trans hnode
    cases hmenu.symm.trans hmenu'
    cases hbranch.symm.trans hbranch'
    exact hoverridden ((choiceTarget_eq_ofWord_iff hfilled).mpr hhas)
  · intro hmissing
    refine ⟨_, branches, _, hget, hmenu, hbranch, ?_⟩
    intro heq
    exact hmissing ((choiceTarget_eq_ofWord_iff hfilled).mp heq)

theorem unknownStart_mem_lint_iff :
    .unknownStart target ∈ (draft.lint settings).issues ↔
      draft.OverridesStart settings target := by
  refine mem_issues_lint_iff.trans (mem_startIssues_iff.trans ?_)
  constructor
  · intro h
    obtain ⟨declared, hdeclared, hmissing, heq⟩ := h
    cases heq
    obtain ⟨hsome, hne⟩ := filled_eq_some_iff.mp hdeclared
    refine ⟨hsome, hne, ?_⟩
    intro hstart
    exact hmissing (has_of_startLabel_eq_some hstart)
  · intro h
    obtain ⟨hsome, hne, hstart⟩ := h
    refine ⟨target, filled_eq_some_iff.mpr ⟨hsome, hne⟩, ?_, rfl⟩
    intro hmem
    exact hstart (startLabel_of_mem hsome hmem)

/-- A report names the references that compilation overrides and no others, and each of them once.
References in scenes that were written again later are no references of the story. -/
theorem lint_overrides (settings : Settings) (draft : Draft) :
    (∀ id target, .danglingNext id target ∈ (draft.lint settings).issues ↔
        draft.OverridesNext settings id target) ∧
      (∀ id index target, .danglingChoice id index target ∈ (draft.lint settings).issues ↔
        draft.OverridesChoice settings id index target) ∧
      (∀ target, .unknownStart target ∈ (draft.lint settings).issues ↔
        draft.OverridesStart settings target) ∧
      ∀ issue ∈ (draft.lint settings).issues, (draft.lint settings).issues.count issue = 1 :=
  ⟨fun _ _ ↦ danglingNext_mem_lint_iff.trans overridesNext_iff.symm,
    fun _ _ _ ↦ danglingChoice_mem_lint_iff.trans overridesChoice_iff.symm,
    fun _ ↦ unknownStart_mem_lint_iff,
    fun _ h ↦ List.count_eq_one_of_mem (nodup_issues_lint settings draft) h⟩

theorem lint_overrides_rewrittenHub :
    rewrittenHub.OverridesChoice {} "hub" 0 "attic" ∧
      (rewrittenHub.lint {}).issues.count (.danglingChoice "hub" 0 "attic") = 1 := by
  obtain ⟨_, hchoices, _, honce⟩ := lint_overrides {} rewrittenHub
  have hoverrides : rewrittenHub.OverridesChoice {} "hub" 0 "attic" :=
    overridesChoice_iff.mpr ⟨2, _, ⟨none, some "attic"⟩, isLast_rewrittenHub, rfl, by decide⟩
  exact ⟨hoverrides, honce _ ((hchoices _ _ _).mpr hoverrides)⟩

end StoryGraph.Draft
