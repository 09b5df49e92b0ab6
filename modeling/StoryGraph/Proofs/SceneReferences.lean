import StoryGraph.Proofs.Overrides

namespace StoryGraph.Draft

open Occurrence (IsLast)

/-- The word is the id of a scene of the story and no reserved label of it. -/
structure NamesScene (settings : Settings) (draft : Draft) (word : String) : Prop where
  ne_empty : word ≠ ""
  scene_mem : .scene word ∈ (draft.compile settings).labels
  reserved_not_mem :
    ∀ label, Label.reserved? word = some label → label ∉ (draft.compile settings).labels

/-- The scene of the story under an id goes on to the scene that a word names. Where it has choices,
that is what they fall back to. -/
def Continues (settings : Settings) (draft : Draft) (id word : String) : Prop :=
  ∃ merged ∈ (draft.normalize settings).scenes, merged.id = id ∧
    (draft.normalize settings).nextOf merged = .scene word ∧
    ∃ node, (draft.compile settings).get? (.scene id) = some node ∧
      (merged.choices = [] → node.continuation.targets = [.scene word])

/-- A branch of the scene under an id leads to the scene that a word names. -/
def Branches (settings : Settings) (draft : Draft) (id : String) (index : Nat) (word : String) :
    Prop :=
  ∃ node branches branch, (draft.compile settings).get? (.scene id) = some node ∧
    node.continuation = .menu branches ∧ branches[index]? = some branch ∧
    branch.target = .scene word

variable {settings : Settings} {draft : Draft} {id word : String} {position index : Nat}
  {scene : Scene} {choice : Choice}

theorem NamesScene.mem_ids (h : draft.NamesScene settings word) : word ∈ draft.ids :=
  mem_labels_compile.mp h.scene_mem

theorem NamesScene.ne_cover (h : draft.NamesScene settings word) : word ≠ "cover" := by
  rintro rfl
  have hcover : draft.Has .cover := trivial
  exact h.reserved_not_mem .cover rfl (mem_labels_compile.mpr hcover)

theorem NamesScene.not_has_ending (h : draft.NamesScene settings "ending") :
    ¬ draft.Has .ending := by
  intro hending
  exact h.reserved_not_mem .ending rfl (mem_labels_compile.mpr hending)

theorem NamesScene.has_ofWord_iff (h : draft.NamesScene settings word) :
    draft.Has (Label.ofWord word) ↔ word ≠ "ending" := by
  constructor
  · rintro hhas rfl
    exact h.not_has_ending hhas
  · intro hne
    rw [Label.ofWord, if_neg h.ne_cover, if_neg hne]
    exact h.mem_ids

theorem NamesScene.ofWord_eq (h : draft.NamesScene settings word) (hne : word ≠ "ending") :
    Label.ofWord word = .scene word := by
  rw [Label.ofWord, if_neg h.ne_cover, if_neg hne]

/-- Lint and compilation agree on what is missing, so both make the exception. -/
theorem NamesScene.missing?_eq_some_iff (h : draft.NamesScene settings word) :
    draft.missing? (some word) = some word ↔ word = "ending" := by
  rw [missing?_iff, h.has_ofWord_iff, not_not]
  constructor
  · intro hmissing
    exact hmissing.2.2
  · intro heq
    exact ⟨rfl, h.ne_empty, heq⟩

theorem NamesScene.danglingNext_mem_lint_iff (h : draft.NamesScene settings word)
    (hlast : IsLast draft.named position id scene) (hnext : scene.next = some word) :
    .danglingNext id word ∈ (draft.lint settings).issues ↔ word = "ending" := by
  rw [Draft.danglingNext_mem_lint_iff, ← h.missing?_eq_some_iff]
  constructor
  · intro hissue
    obtain ⟨position', scene', hlast', hmissing⟩ := hissue
    obtain ⟨rfl, rfl⟩ := hlast.unique hlast'
    rwa [hnext] at hmissing
  · intro hmissing
    exact ⟨position, scene, hlast, by rwa [hnext]⟩

theorem NamesScene.danglingChoice_mem_lint_iff (h : draft.NamesScene settings word)
    (hlast : IsLast draft.named position id scene) (hchoice : scene.choices[index]? = some choice)
    (hnext : choice.next = some word) :
    .danglingChoice id index word ∈ (draft.lint settings).issues ↔ word = "ending" := by
  rw [Draft.danglingChoice_mem_lint_iff, ← h.missing?_eq_some_iff]
  constructor
  · intro hissue
    obtain ⟨position', scene', choice', hlast', hchoice', hmissing⟩ := hissue
    obtain ⟨rfl, rfl⟩ := hlast.unique hlast'
    cases hchoice.symm.trans hchoice'
    rwa [hnext] at hmissing
  · intro hmissing
    exact ⟨position, scene, choice, hlast, hchoice, by rwa [hnext]⟩

theorem NamesScene.continues (h : draft.NamesScene settings word)
    (hlast : IsLast draft.named position id scene) (hnext : scene.next = some word)
    (hne : word ≠ "ending") : draft.Continues settings id word := by
  have hfilled : filled scene.next = some word := filled_eq_some_iff.mpr ⟨hnext, h.ne_empty⟩
  have hresolved : (draft.normalize settings).nextOf
      (draft.scriptScene settings position id scene) = .scene word :=
    ((nextOf_normalize_eq_ofWord_iff hfilled).mpr (h.has_ofWord_iff.mpr hne)).trans
      (h.ofWord_eq hne)
  refine ⟨_, scriptScene_mem settings hlast, rfl, hresolved, _, get?_scene_compile settings hlast,
    ?_⟩
  intro hchoices
  change ((draft.normalize settings).sceneContinuation _).targets = _
  rw [Script.sceneContinuation, hchoices, hresolved]
  split_ifs with hmenu
  · cases hmenu
  · rfl
  · rfl

theorem NamesScene.branches (h : draft.NamesScene settings word)
    (hlast : IsLast draft.named position id scene) (hchoice : scene.choices[index]? = some choice)
    (hnext : choice.next = some word) (hne : word ≠ "ending") :
    draft.Branches settings id index word := by
  have hfilled : filled choice.next = some word := filled_eq_some_iff.mpr ⟨hnext, h.ne_empty⟩
  have htarget : draft.choiceTarget position scene choice = .scene word :=
    ((choiceTarget_eq_ofWord_iff hfilled).mpr (h.has_ofWord_iff.mpr hne)).trans (h.ofWord_eq hne)
  obtain ⟨branches, hmenu, _, hbranches⟩ := exists_menu_of_choices settings draft position id
    (List.ne_nil_of_mem (List.mem_of_getElem? hchoice))
  exact ⟨_, branches, _, get?_scene_compile settings hlast, hmenu, hbranches index choice hchoice,
    htarget⟩

/-- A reference to a scene of the story is followed and not reported, whether a scene or a choice
makes it, exactly when the word is not `ending`. -/
theorem followed_unreported_iff (settings : Settings) (draft : Draft)
    (hlast : IsLast draft.named position id scene) (hword : draft.NamesScene settings word) :
    (scene.next = some word →
        (draft.Continues settings id word ∧
          .danglingNext id word ∉ (draft.lint settings).issues ↔ word ≠ "ending")) ∧
      ∀ index choice, scene.choices[index]? = some choice → choice.next = some word →
        (draft.Branches settings id index word ∧
          .danglingChoice id index word ∉ (draft.lint settings).issues ↔ word ≠ "ending") := by
  constructor
  · intro hnext
    rw [hword.danglingNext_mem_lint_iff hlast hnext]
    exact and_iff_right_of_imp (hword.continues hlast hnext)
  · intro index choice hchoice hnext
    rw [hword.danglingChoice_mem_lint_iff hlast hchoice hnext]
    exact and_iff_right_of_imp (hword.branches hlast hchoice hnext)

def sceneNamedEnding : Draft where
  version := none
  cover := none
  scenes := [⟨some "gate", none, none, [], [⟨none, some "hall"⟩, ⟨none, some "ending"⟩],
      some "hall"⟩,
    ⟨some "road", none, none, [], [], some "ending"⟩, ⟨some "hall", none, none, [], [], none⟩,
    ⟨some "ending", none, none, [], [], none⟩]
  ending := none
  startScene := none

theorem isLast_road :
    IsLast sceneNamedEnding.named 1 "road" ⟨some "road", none, none, [], [], some "ending"⟩ :=
  Occurrence.isLast_iff_split.mpr ⟨sceneNamedEnding.named.take 1, sceneNamedEnding.named.drop 2,
    by decide, rfl, by decide⟩

theorem isLast_gate : IsLast sceneNamedEnding.named 0 "gate" ⟨some "gate", none, none,
    [], [⟨none, some "hall"⟩, ⟨none, some "ending"⟩], some "hall"⟩ :=
  Occurrence.isLast_iff_split.mpr ⟨[], sceneNamedEnding.named.drop 1, by decide, rfl, by decide⟩

theorem namesScene_hall : sceneNamedEnding.NamesScene {} "hall" :=
  ⟨by decide, by decide, nofun⟩

theorem followed_unreported_hall :
    sceneNamedEnding.Continues {} "gate" "hall" ∧ sceneNamedEnding.Branches {} "gate" 0 "hall" ∧
      .danglingChoice "gate" 0 "hall" ∉ (sceneNamedEnding.lint {}).issues := by
  obtain ⟨hnext, hchoice⟩ :=
    followed_unreported_iff {} sceneNamedEnding isLast_gate namesScene_hall
  have hbranch := (hchoice 0 _ rfl rfl).mpr (by decide)
  exact ⟨((hnext rfl).mpr (by decide)).1, hbranch.1, hbranch.2⟩

/-- The scene called `ending` is there, but references to it are overridden and reported. -/
theorem scene_named_ending_missed :
    sceneNamedEnding.NamesScene {} "ending" ∧
      (∃ node, (sceneNamedEnding.compile {}).get? (.scene "road") = some node ∧
        node.continuation.targets = [.scene "hall"]) ∧
      (∃ node, (sceneNamedEnding.compile {}).get? (.scene "gate") = some node ∧
        node.continuation.targets = [.scene "hall", .scene "hall"]) ∧
      .danglingNext "road" "ending" ∈ (sceneNamedEnding.lint {}).issues ∧
      .danglingChoice "gate" 1 "ending" ∈ (sceneNamedEnding.lint {}).issues := by
  refine ⟨⟨by decide, by decide, ?_⟩, ⟨_, rfl, by decide⟩, ⟨_, rfl, by decide⟩, ?_, ?_⟩
  · intro label hlabel
    cases hlabel
    decide
  · exact danglingNext_mem_lint_iff.mpr ⟨1, _, isLast_road, by decide⟩
  · exact danglingChoice_mem_lint_iff.mpr ⟨0, _, _, isLast_gate, rfl, by decide⟩

end StoryGraph.Draft
