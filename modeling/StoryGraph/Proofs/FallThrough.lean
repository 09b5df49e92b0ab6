import Mathlib.Data.List.Chain
import StoryGraph.Proofs.Continuations

namespace StoryGraph

def Graph.OnlyLeads (graph : Graph) (label other : Label) : Prop :=
  ∃ node, graph.get? label = some node ∧ node.continuation.targets = [other]

theorem Occurrence.IsLast.le {α : Type} {items : List (String × α)} {position other : Nat}
    {name : String} {item item' : α} (h : IsLast items position name item)
    (hother : items[other]? = some (name, item')) : other ≤ position := by
  by_contra hlt
  exact h.final other item' (Nat.lt_of_not_le hlt) hother

namespace Draft

open Occurrence (IsLast)

variable {settings : Settings} {draft : Draft} {position : Nat} {id other : String}
  {scene item : Scene} {visited : List String}

/-- The last scene under one id stands before the last scene under the other. -/
def LastBefore (draft : Draft) (id other : String) : Prop :=
  ∃ position scene position' scene', IsLast draft.named position id scene ∧
    IsLast draft.named position' other scene' ∧ position < position'

instance : IsTrans String draft.LastBefore where
  trans := by
    rintro id other third ⟨position, scene, position', scene', h, h', hlt⟩
      ⟨_, _, last, scene'', h'', hlast, hlt'⟩
    obtain ⟨rfl, rfl⟩ := h'.unique h''
    exact ⟨position, scene, last, scene'', h, hlast, hlt.trans hlt'⟩

theorem LastBefore.ne (h : draft.LastBefore id other) : id ≠ other := by
  rintro rfl
  obtain ⟨position, scene, position', scene', h, h', hlt⟩ := h
  obtain ⟨rfl, _⟩ := h.unique h'
  exact Nat.lt_irrefl position hlt

theorem nodup_of_isChain_lastBefore (h : visited.IsChain draft.LastBefore) : visited.Nodup :=
  h.pairwise.imp LastBefore.ne

theorem lastBefore_of_follower (h : IsLast draft.named position id scene)
    (hother : draft.named[position + 1]? = some (other, item)) : draft.LastBefore id other := by
  have hmem : other ∈ draft.named.map Prod.fst :=
    List.mem_map.mpr ⟨_, List.mem_of_getElem? hother, rfl⟩
  obtain ⟨position', scene', h'⟩ := Occurrence.exists_isLast hmem
  exact ⟨position, scene, position', scene', h, h', h'.le hother⟩

theorem lastBefore_of_fallback {merged : Script.Scene} (h : merged ∈ draft.mergedScenes settings)
    (hfallback : merged.fallback = some other) : draft.LastBefore merged.id other := by
  obtain ⟨position, original, hlast, heq⟩ := mem_mergedScenes_iff.mp h
  rw [heq] at hfallback
  obtain ⟨⟨name, item⟩, hother, rfl⟩ := Option.map_eq_some_iff.mp hfallback
  exact lastBefore_of_follower hlast hother

/-- Nothing that counts leads anywhere but to the scene behind it. -/
def Plain (draft : Draft) : Prop :=
  ∀ position id scene, IsLast draft.named position id scene →
    scene.choices = [] ∧ draft.honoured? scene.next = none

def lastLabel (draft : Draft) : Label := if draft.ending.isSome then .ending else .cover

theorem onlyLeads_onward (settings : Settings) (h : IsLast draft.named position id scene)
    (hchoices : scene.choices = []) : (draft.compile settings).OnlyLeads (.scene id)
      (draft.onward position scene) := by
  refine ⟨_, get?_scene_compile settings h, ?_⟩
  change Continuation.targets (Script.sceneContinuation _ _) = _
  rw [sceneContinuation_normalize, if_neg (not_not.mpr hchoices)]
  split_ifs <;> rfl

theorem onlyLeads_start (settings : Settings) {label : Label}
    (h : draft.startLabel = some label) : (draft.compile settings).OnlyLeads .cover label := by
  refine ⟨_, get?_cover_compile settings draft, ?_⟩
  change Continuation.targets (Script.coverContinuation _) = _
  rw [coverContinuation_normalize, h]
  rfl

theorem onward_of_follower (h : draft.honoured? scene.next = none)
    (hother : draft.named[position + 1]? = some (other, item)) :
    draft.onward position scene = .scene other := by
  simp only [onward, h, hother]

theorem onward_of_length_le (h : draft.honoured? scene.next = none)
    (hlength : draft.named.length ≤ position + 1) :
    draft.onward position scene = draft.lastLabel := by
  simp only [onward, h, List.getElem?_eq_none hlength]
  rfl

theorem getElem?_ids (h : draft.named[position]? = some (id, scene)) :
    draft.ids[position]? = some id := by
  rw [ids, List.getElem?_map, h]
  rfl

theorem drop_ids (h : draft.named[position]? = some (id, scene)) :
    draft.ids.drop position = id :: draft.ids.drop (position + 1) := by
  obtain ⟨hlt, rfl⟩ := List.getElem?_eq_some_iff.mp (getElem?_ids h)
  exact List.drop_eq_getElem_cons hlt

theorem position_unique {position' : Nat} (hnodup : draft.ids.Nodup)
    (h : draft.ids[position]? = some id) (h' : draft.ids[position']? = some id) :
    position = position' :=
  (List.getElem?_inj (List.getElem?_eq_some_iff.mp h).1 hnodup).mp (h.trans h'.symm)

/-- These scenes are visited one after the other from a position on, each later in the draft than
the one before it, and then the story is over. -/
structure FallsThrough (settings : Settings) (draft : Draft) (position : Nat)
    (visited : List String) : Prop where
  mem_ids : ∀ id ∈ visited, id ∈ draft.ids
  later : visited.IsChain draft.LastBefore
  leads : (visited.map Label.scene ++ [draft.lastLabel]).IsChain (draft.compile settings).OnlyLeads
  authored : draft.ids.Nodup → visited = draft.ids.drop position

theorem fallsThrough_of_length_le (settings : Settings) (hplain : draft.Plain)
    (h : IsLast draft.named position id scene) (hlength : draft.named.length ≤ position + 1) :
    FallsThrough settings draft position [id] := by
  obtain ⟨hchoices, hnext⟩ := hplain position id scene h
  refine ⟨?_, .singleton id, ?_, ?_⟩
  · intro other hmem
    rw [List.mem_singleton.mp hmem]
    exact h.name_mem
  · have hleads := onlyLeads_onward settings h hchoices
    rw [onward_of_length_le hnext hlength] at hleads
    exact .cons_cons hleads (.singleton _)
  · intro _
    have hids : draft.ids.length ≤ position + 1 := by rwa [ids, List.length_map]
    rw [drop_ids h.found, List.drop_eq_nil_of_le hids]

theorem FallsThrough.cons {position' : Nat} {scene' : Scene} (hplain : draft.Plain)
    (h : IsLast draft.named position id scene)
    (hother : draft.named[position + 1]? = some (other, item))
    (h' : IsLast draft.named position' other scene')
    (hvisited : FallsThrough settings draft position' (other :: visited)) :
    FallsThrough settings draft position (id :: other :: visited) := by
  obtain ⟨hchoices, hnext⟩ := hplain position id scene h
  refine ⟨List.forall_mem_cons.mpr ⟨h.name_mem, hvisited.mem_ids⟩,
    .cons_cons (lastBefore_of_follower h hother) hvisited.later, ?_, ?_⟩
  · have hleads := onlyLeads_onward settings h hchoices
    rw [onward_of_follower hnext hother] at hleads
    exact .cons_cons hleads hvisited.leads
  · intro hnodup
    -- Without repetitions the scene behind is itself the last one under its id.
    have hsame : position + 1 = position' :=
      position_unique hnodup (getElem?_ids hother) (getElem?_ids h'.found)
    rw [drop_ids h.found, hsame, ← hvisited.authored hnodup]

/-- From the last occurrence of any id the story falls through to its end. -/
theorem exists_fallsThrough (settings : Settings) (hplain : draft.Plain)
    (h : IsLast draft.named position id scene) :
    ∃ rest, FallsThrough settings draft position (id :: rest) := by
  -- The scenes behind the position grow fewer.
  induction hleft : draft.named.length - position using Nat.strong_induction_on
    generalizing position id scene with
  | _ left ih =>
    rcases Nat.lt_or_ge (position + 1) draft.named.length with hlt | hge
    · have hother : draft.named[position + 1]? =
          some (draft.named[position + 1].1, draft.named[position + 1].2) :=
        List.getElem?_eq_getElem hlt
      obtain ⟨position', scene', h'⟩ := Occurrence.exists_isLast
        (List.mem_map.mpr ⟨_, List.getElem_mem hlt, rfl⟩)
      have hle : position + 1 ≤ position' := h'.le hother
      obtain ⟨rest, hrest⟩ := ih (draft.named.length - position') (by omega) h' rfl
      exact ⟨_, hrest.cons hplain h hother h'⟩
    · exact ⟨[], fallsThrough_of_length_le settings hplain h hge⟩

theorem exists_startLabel_eq_scene (h : draft.ids ≠ []) :
    ∃ id ∈ draft.ids, draft.startLabel = some (.scene id) ∧
      ((∀ declared, draft.startScene = some declared → declared ∉ draft.ids) →
        draft.ids[0]? = some id) := by
  cases hdeclared : draft.startScene.filter draft.ids.contains with
  | some id =>
    obtain ⟨hsome, hid⟩ := Option.filter_eq_some_iff.mp hdeclared
    have hmem : id ∈ draft.ids := by simpa using hid
    exact ⟨id, hmem, startLabel_of_mem hsome hmem, fun hunknown ↦ absurd hmem (hunknown id hsome)⟩
  | none =>
    obtain ⟨id, rest, hids⟩ := List.exists_cons_of_ne_nil h
    refine ⟨id, by simp [hids], ?_, fun _ ↦ by simp [hids]⟩
    rw [startLabel_of_not_mem hdeclared, hids]
    rfl

/-- A story in which nothing leads anywhere but to the scene behind it comes to its end. From its
cover on it visits scenes that all differ, and then it comes to the ending, or back to the cover if
there is none: whatever ids are repeated, each scene falls back to one that was last written later,
and never to itself. Where no id is repeated and the start is not chosen, all scenes are visited in
the order in which they were written. -/
theorem exists_visited (settings : Settings) (draft : Draft) (hids : draft.ids ≠ [])
    (hplain : ∀ position id scene, IsLast draft.named position id scene →
      scene.choices = [] ∧ draft.honoured? scene.next = none) :
    (∀ merged ∈ (draft.normalize settings).scenes, ∀ id, merged.fallback = some id →
      id ≠ merged.id ∧ ∃ position scene position' scene',
        IsLast draft.named position merged.id scene ∧ IsLast draft.named position' id scene' ∧
          position < position') ∧
      ∃ visited : List String, visited ≠ [] ∧ visited.Nodup ∧
        (∀ id ∈ visited, .scene id ∈ (draft.compile settings).labels) ∧
        (.cover :: (visited.map Label.scene ++
          [if draft.ending.isSome then .ending else .cover])).IsChain
            (draft.compile settings).OnlyLeads ∧
        (draft.ids.Nodup → (∀ id, draft.startScene = some id → id ∉ draft.ids) →
          visited = draft.ids) := by
  constructor
  · intro merged hmerged id hfallback
    have hbefore := lastBefore_of_fallback hmerged hfallback
    exact ⟨hbefore.ne.symm, hbefore⟩
  · obtain ⟨id, hid, hstart, hfirst⟩ := exists_startLabel_eq_scene hids
    obtain ⟨position, scene, hlast⟩ := Occurrence.exists_isLast hid
    obtain ⟨rest, hrest⟩ := exists_fallsThrough settings hplain hlast
    refine ⟨id :: rest, List.cons_ne_nil id rest, nodup_of_isChain_lastBefore hrest.later,
      fun other hother ↦ mem_labels_compile.mpr (hrest.mem_ids other hother),
      .cons_cons (onlyLeads_start settings hstart) hrest.leads, ?_⟩
    intro hnodup hunknown
    have hzero : position = 0 :=
      position_unique hnodup (getElem?_ids hlast.found) (hfirst hunknown)
    rw [hrest.authored hnodup, hzero, List.drop_zero]

def windingDraft : Draft where
  version := none
  cover := none
  scenes := [⟨some "gate", none, none, [], [], none⟩,
    ⟨some "yard", none, none, [], [], some "moat"⟩, ⟨none, none, none, [], [], none⟩,
    ⟨some "gate", none, none, [], [], none⟩, ⟨some "hall", none, none, [], [], none⟩]
  ending := none
  startScene := some "yard"

theorem exists_visited_windingDraft :
    windingDraft.ids ≠ [] ∧ ∃ visited : List String, visited ≠ [] ∧ visited.Nodup ∧
      (.cover :: (visited.map Label.scene ++ [.cover])).IsChain
        (windingDraft.compile {}).OnlyLeads := by
  have hids : windingDraft.ids ≠ [] := by decide
  have hplain : ∀ named ∈ windingDraft.named,
      named.2.choices = [] ∧ windingDraft.honoured? named.2.next = none := by decide
  obtain ⟨_, visited, hne, hnodup, _, hleads, _⟩ := exists_visited {} windingDraft hids
    fun position id scene hlast ↦ hplain (id, scene) hlast.mem
  exact ⟨hids, visited, hne, hnodup, hleads⟩

end Draft

end StoryGraph
