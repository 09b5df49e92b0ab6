import StoryGraph.Proofs.Labels

namespace StoryGraph.Draft

open Occurrence (IsLast)

/-- The label that a reference reaches by itself. A reserved word never reaches a scene. -/
def honoured? (draft : Draft) (reference : Option String) : Option Label :=
  match filled reference with
  | none => none
  | some word =>
    if word = "cover" then some .cover
    else if word = "ending" then if draft.ending.isSome then some .ending else none
    else if word ∈ draft.ids then some (.scene word) else none

/-- Where the story goes on from the named scene at a position: as its reference says if that is
honoured, else to the named scene behind it, else to the ending or back to the cover. -/
def onward (draft : Draft) (position : Nat) (scene : Scene) : Label :=
  match draft.honoured? scene.next with
  | some label => label
  | none =>
    match draft.named[position + 1]? with
    | some (id, _) => .scene id
    | none => if draft.ending.isSome then .ending else .cover

/-- Where a choice of the named scene at a position leads. A choice whose reference is not honoured
goes on with the scene, but where the scene goes back to the cover it prefers an ending. -/
def choiceTarget (draft : Draft) (position : Nat) (scene : Scene) (choice : Choice) : Label :=
  match draft.honoured? choice.next with
  | some label => label
  | none =>
    if draft.onward position scene = .cover ∧ draft.ending.isSome then .ending
    else draft.onward position scene

variable {settings : Settings} {draft : Draft} {position : Nat} {scene : Scene} {choice : Choice}
  {reference : Option String} {label : Label}

theorem honoured?_eq_some_iff_has :
    draft.honoured? reference = some label ↔
      ∃ word, filled reference = some word ∧ label = Label.ofWord word ∧ draft.Has label := by
  unfold honoured?
  cases filled reference with
  | none => simp
  | some word =>
    simp only [Option.some.injEq, exists_eq_left', Label.ofWord]
    split_ifs with hcover hending hsome hmem
    · exact Reference.some_eq_some_iff_available trivial
    · exact Reference.some_eq_some_iff_available hsome
    · have hmissing : ¬ draft.Has .ending := hsome
      exact iff_of_false nofun (Reference.not_eq_and_available hmissing)
    · exact Reference.some_eq_some_iff_available hmem
    · have hmissing : ¬ draft.Has (.scene word) := hmem
      exact iff_of_false nofun (Reference.not_eq_and_available hmissing)

@[simp]
theorem filled_filled (text : Option String) : filled (filled text) = filled text := by
  simp [filled, Option.filter_filter]

theorem bind_honoured?_normalize :
    (filled reference).bind (Reference.honoured? (draft.normalize settings).index
        (draft.normalize settings).hasEnding) = draft.honoured? reference := by
  ext label
  rw [honoured?_eq_some_iff_has, Option.bind_eq_some_iff]
  simp only [Reference.honoured?_eq_some_iff, available_normalize]

theorem resolve_normalize (settings : Settings) (draft : Draft) (reference : Option String)
    (fallback : Option Label) :
    (draft.normalize settings).resolve (filled reference) fallback =
      (draft.honoured? reference).getD
        ((Reference.fallback? (draft.normalize settings).index fallback).getD
          (if draft.ending.isSome then .ending else .cover)) := by
  have hreference : (filled (filled reference)).bind
      (Reference.honoured? (draft.normalize settings).index
        (draft.normalize settings).hasEnding) = draft.honoured? reference := by
    rw [filled_filled, bind_honoured?_normalize]
  unfold Script.resolve
  cases hhonoured : draft.honoured? reference with
  | some label => exact Reference.resolve_of_honoured (hreference.trans hhonoured)
  | none =>
    rw [Reference.resolve_of_not_honoured (hreference.trans hhonoured), hasEnding_normalize]
    rfl

theorem fallback?_normalize_scene {id : String} (h : id ∈ draft.ids) :
    Reference.fallback? (draft.normalize settings).index (some (.scene id)) = some (.scene id) :=
  Reference.fallback?_eq_some_iff.mpr ⟨id, mem_ids_index_normalize.mpr h, rfl, rfl⟩

theorem nextOf_normalize (settings : Settings) (id : String) :
    (draft.normalize settings).nextOf (draft.scriptScene settings position id scene) =
      draft.onward position scene := by
  change (draft.normalize settings).resolve (filled scene.next)
    ((draft.named[position + 1]?.map Prod.fst).map Label.scene) = _
  rw [resolve_normalize, onward]
  cases draft.honoured? scene.next with
  | some label => rfl
  | none =>
    cases hbehind : draft.named[position + 1]? with
    | none => rfl
    | some behind =>
      have hid : behind.1 ∈ draft.ids :=
        List.mem_map.mpr ⟨behind, List.mem_of_getElem? hbehind, rfl⟩
      exact congrArg (Option.getD · _) (fallback?_normalize_scene hid)

theorem has_onward : draft.Has (draft.onward position scene) := by
  rw [← nextOf_normalize {} ""]
  exact available_normalize.mp Reference.available_resolve

theorem target_normalize (settings : Settings) (id : String) :
    (draft.normalize settings).resolve (filled choice.next)
        (some ((draft.normalize settings).nextOf (draft.scriptScene settings position id scene))) =
      draft.choiceTarget position scene choice := by
  have hhas : draft.Has (draft.onward position scene) := has_onward
  rw [nextOf_normalize, resolve_normalize, choiceTarget]
  cases draft.honoured? choice.next with
  | some label => rfl
  | none =>
    cases honward : draft.onward position scene with
    | cover => cases draft.ending <;> rfl
    | ending =>
      -- The ending was resolved, so the draft has one, and the fallback of all references is it.
      rw [honward] at hhas
      have hending : draft.ending.isSome = true := hhas
      rw [hending]
      rfl
    | scene id =>
      rw [honward] at hhas
      simp [fallback?_normalize_scene hhas]

theorem sceneContinuation_normalize (settings : Settings) (draft : Draft) (position : Nat)
    (id : String) :
    (draft.normalize settings).sceneContinuation (draft.scriptScene settings position id scene) =
      if scene.choices ≠ [] then
        .menu (scene.choices.mapIdx fun index choice ↦ ⟨index,
          (filled choice.label).getD s!"{settings.choiceCaption} {index + 1}",
          draft.choiceTarget position scene choice⟩)
      else if scene.dialogue = [] then
        .proceed settings.continueCaption (draft.onward position scene)
      else .afterLastLine (draft.onward position scene) := by
  have hscene : (draft.scriptScene settings position id scene).choices =
      scene.choices.mapIdx (Choice.normalize settings) := rfl
  have hlines : (draft.scriptScene settings position id scene).lines =
      scene.dialogue.map Line.normalize := rfl
  rw [Script.sceneContinuation, nextOf_normalize, hscene, hlines, List.mapIdx_mapIdx]
  by_cases hchoices : scene.choices = []
  · by_cases hdialogue : scene.dialogue = []
    · simp only [hchoices, hdialogue]
      rfl
    · have hempty : (scene.dialogue.map Line.normalize).isEmpty = false := by simpa using hdialogue
      simp only [hchoices, hdialogue, hempty]
      rfl
  · have hempty : (scene.choices.mapIdx (Choice.normalize settings)).isEmpty = false := by
      simpa using hchoices
    have hbranches : (fun index choice ↦ (draft.normalize settings).branch
        (draft.scriptScene settings position id scene) index
        (Choice.normalize settings index choice)) = fun index choice ↦ ⟨index,
          (filled choice.label).getD s!"{settings.choiceCaption} {index + 1}",
          draft.choiceTarget position scene choice⟩ := by
      funext index choice
      exact congrArg (Branch.mk index _) (target_normalize settings id)
    rw [hempty, ← hbranches, if_pos hchoices]
    rfl

theorem exists_menu_of_choices (settings : Settings) (draft : Draft) (position : Nat) (id : String)
    (hchoices : scene.choices ≠ []) :
    ∃ branches, (draft.normalize settings).sceneContinuation
        (draft.scriptScene settings position id scene) = .menu branches ∧
      branches.length = scene.choices.length ∧
      ∀ (index : Nat) (choice : Choice), scene.choices[index]? = some choice →
        branches[index]? = some ⟨index,
          (filled choice.label).getD s!"{settings.choiceCaption} {index + 1}",
          draft.choiceTarget position scene choice⟩ := by
  have hmenu := (sceneContinuation_normalize settings draft position id).trans (if_pos hchoices)
  refine ⟨_, hmenu, by simp, ?_⟩
  intro index choice hchoice
  rw [List.getElem?_mapIdx, hchoice]
  rfl

/-- From the scenes that were last written under their ids, the references of the draft and the
presence of an ending, the way on from every scene of the graph follows. -/
theorem compile_continuation (settings : Settings) (draft : Draft) :
    (∀ id ∈ draft.ids, ∃ position scene, IsLast draft.named position id scene) ∧
      ∀ position id scene, IsLast draft.named position id scene →
        ∃ node, (draft.compile settings).get? (.scene id) = some node ∧
          (scene.choices ≠ [] → ∃ branches, node.continuation = .menu branches ∧
            branches.length = scene.choices.length ∧
            ∀ (index : Nat) (choice : Choice), scene.choices[index]? = some choice →
              branches[index]? = some ⟨index,
                (filled choice.label).getD s!"{settings.choiceCaption} {index + 1}",
                draft.choiceTarget position scene choice⟩) ∧
          (scene.choices = [] → scene.dialogue = [] →
            node.continuation =
              .proceed settings.continueCaption (draft.onward position scene)) ∧
          (scene.choices = [] → scene.dialogue ≠ [] →
            node.continuation = .afterLastLine (draft.onward position scene)) := by
  refine ⟨fun id hid ↦ Occurrence.exists_isLast hid, ?_⟩
  intro position id scene hlast
  refine ⟨_, get?_scene_compile settings hlast, ?_, ?_, ?_⟩
  · intro hchoices
    exact exists_menu_of_choices settings draft position id hchoices
  · intro hchoices hdialogue
    apply (sceneContinuation_normalize settings draft position id).trans
    simp [hchoices, hdialogue]
  · intro hchoices hdialogue
    apply (sceneContinuation_normalize settings draft position id).trans
    simp [hchoices, hdialogue]

def rewrittenHub : Draft where
  version := none
  cover := none
  scenes := [⟨some "hub", none, none, [], [], some "shop"⟩, ⟨some "shop", none, none, [], [], none⟩,
    ⟨some "hub", none, none, [], [⟨none, some "attic"⟩, ⟨some "Shop", some "shop"⟩], some "cover"⟩]
  ending := some ⟨none, none, none, none⟩
  startScene := some "cellar"

theorem isLast_rewrittenHub : IsLast rewrittenHub.named 2 "hub" ⟨some "hub", none, none, [],
    [⟨none, some "attic"⟩, ⟨some "Shop", some "shop"⟩], some "cover"⟩ :=
  Occurrence.isLast_iff_split.mpr ⟨rewrittenHub.named.take 2, [], by decide, by decide, by decide⟩

theorem compile_continuation_rewrittenHub :
    ∃ node, (rewrittenHub.compile {}).get? (.scene "hub") = some node ∧
      node.continuation = .menu [⟨0, "Option 1", .ending⟩, ⟨1, "Shop", .scene "shop"⟩] := by
  obtain ⟨node, hget, hmenu, _⟩ :=
    (compile_continuation {} rewrittenHub).2 2 "hub" _ isLast_rewrittenHub
  obtain ⟨branches, hcontinuation, hlength, hbranch⟩ := hmenu (by decide)
  have hfirst := hbranch 0 _ rfl
  have hsecond := hbranch 1 _ rfl
  refine ⟨node, hget, hcontinuation.trans (congrArg _ (List.ext_getElem? ?_))⟩
  intro index
  match index with
  | 0 => exact hfirst.trans (by decide)
  | 1 => exact hsecond.trans (by decide)
  | index + 2 => simp [hlength]

end StoryGraph.Draft
