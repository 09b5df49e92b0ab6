import StoryGraph.Proofs.Continuations
import StoryGraph.Proofs.Positions

namespace StoryGraph

namespace Event

/-- The parts of the log of a compilation, in order; other events are no part of it. -/
inductive Part where
  | normalizing
  | version
  | unnamed
  | repetitions
  | reserved
  | start
  | compiling
  | references
  | compiled
  | elsewhere
  deriving DecidableEq

def part : Event → Part
  | normalizing _ => .normalizing
  | versionDiffers _ => .version
  | sceneWithoutId _ => .unnamed
  | repeatedId .. => .repetitions
  | reservedId _ => .reserved
  | unknownStart _ => .start
  | compiling _ => .compiling
  | missingEnding | danglingReference _ => .references
  | compiled _ => .compiled
  | startSceneWrittenTwice | notAnObject | recompiled _ | playthroughStopped .. => .elsewhere

def unnamedPosition? : Event → Option Nat
  | sceneWithoutId position => some position
  | _ => none

def repetition? (id : String) : Event → Option (Nat × Nat)
  | repeatedId other previous position => if other = id then some (previous, position) else none
  | _ => none

def overridden? : Event → Option String
  | missingEnding => some "ending"
  | danglingReference candidate => some candidate
  | _ => none

variable {event : Event}

theorem part_of_unnamedPosition? {position : Nat} (h : event.unnamedPosition? = some position) :
    event.part = .unnamed := by
  cases event <;> cases h
  rfl

theorem part_of_repetition? {id : String} {positions : Nat × Nat}
    (h : event.repetition? id = some positions) : event.part = .repetitions := by
  cases event with
  | repeatedId => rfl
  | _ => cases h

theorem part_of_overridden? {word : String} (h : event.overridden? = some word) :
    event.part = .references := by
  cases event <;> cases h <;> rfl

end Event

namespace Issue

def unnamedPosition? : Issue → Option Nat
  | sceneWithoutId position => some position
  | _ => none

def overridden? : Issue → Option String
  | danglingNext _ target | danglingChoice _ _ target => some target
  | _ => none

variable {issue : Issue}

theorem part_of_unnamedPosition? {position : Nat} (h : issue.unnamedPosition? = some position) :
    issue.part = .unnamed := by
  cases issue <;> cases h
  rfl

theorem part_of_overridden? {word : String} (h : issue.overridden? = some word) :
    issue.part = .scenes := by
  cases issue <;> cases h <;> rfl

end Issue

namespace Draft

variable {settings : Settings} {draft : Draft} {id word : String} {event : Event}

def eventsOf (settings : Settings) (draft : Draft) : Event.Part → List Event
  | .normalizing => [.normalizing draft.scenes.length]
  | .version => draft.versionEvents
  | .unnamed => draft.unnamedPositions.map .sceneWithoutId
  | .repetitions => draft.repetitionEvents
  | .reserved => draft.reservedEvents
  | .start => draft.startEvents
  | .compiling => [.compiling (draft.normalize settings).scenes.length]
  | .references =>
    (draft.normalize settings).scenes.flatMap (draft.normalize settings).sceneEvents
  | .compiled => [.compiled (draft.normalize settings).compile.nodes.length]
  | .elsewhere => []

theorem compileEvents_eq (settings : Settings) (draft : Draft) :
    draft.compileEvents settings =
      [.normalizing, .version, .unnamed, .repetitions, .reserved, .start, .compiling, .references,
        .compiled, .elsewhere].flatMap (draft.eventsOf settings) := by
  simp [compileEvents, normalizeEvents, Script.compileEvents, eventsOf]

theorem mem_versionEvents_iff :
    event ∈ draft.versionEvents ↔ ∃ version, draft.version = some version ∧
      version ≠ currentVersion ∧ event = .versionDiffers version := by
  unfold versionEvents
  cases draft.version with
  | none => simp
  | some version => by_cases hversion : version = currentVersion <;> simp [hversion]

theorem exists_of_mem_repetitionEvents (h : event ∈ draft.repetitionEvents) :
    ∃ id previous position, event = .repeatedId id previous position := by
  obtain ⟨⟨id, position⟩, _, hevent⟩ := List.mem_filterMap.mp h
  obtain ⟨previous, _, rfl⟩ := Option.map_eq_some_iff.mp hevent
  exact ⟨id, previous, position, rfl⟩

theorem part_of_mem_events {index : SceneIndex} {hasEnding : Bool} {candidate : Option String}
    (h : event ∈ Reference.events index hasEnding candidate) : event.part = .references := by
  unfold Reference.events at h
  split at h
  · cases h
  · split_ifs at h
    · cases h
    · rw [List.mem_singleton.mp h]
      rfl
    · rw [List.mem_singleton.mp h]
      rfl

theorem part_of_mem_eventsOf {part : Event.Part} (h : event ∈ draft.eventsOf settings part) :
    event.part = part := by
  cases part with
  | normalizing | compiling | compiled =>
    rw [List.mem_singleton.mp h]
    rfl
  | version =>
    obtain ⟨_, _, _, rfl⟩ := mem_versionEvents_iff.mp h
    rfl
  | unnamed | reserved =>
    obtain ⟨_, _, rfl⟩ := List.mem_map.mp h
    rfl
  | repetitions =>
    obtain ⟨_, _, _, rfl⟩ := exists_of_mem_repetitionEvents h
    rfl
  | start =>
    change event ∈ draft.startEvents at h
    unfold startEvents at h
    split at h
    · split_ifs at h
      · cases h
      · rw [List.mem_singleton.mp h]
        rfl
    · cases h
  | references =>
    obtain ⟨scene, _, hevent⟩ := List.mem_flatMap.mp h
    rw [Script.sceneEvents, List.mem_append, List.mem_flatMap] at hevent
    obtain hevent | ⟨choice, _, hevent⟩ := hevent
    · exact part_of_mem_events hevent
    · exact part_of_mem_events hevent
  | elsewhere => cases h

/-- What is chosen from one part of a log only is chosen from that part. -/
theorem filterMap_compileEvents {α : Type} {choose : Event → Option α} {part : Event.Part}
    (hchoose : ∀ event result, choose event = some result → event.part = part) :
    (draft.compileEvents settings).filterMap choose =
      (draft.eventsOf settings part).filterMap choose := by
  rw [compileEvents_eq]
  exact filterMap_flatMap_of_key Event.part id (by decide) (by cases part <;> decide)
    (fun _ _ _ h ↦ part_of_mem_eventsOf h) hchoose

theorem count_compileEvents (settings : Settings) (draft : Draft) (event : Event) :
    (draft.compileEvents settings).count event =
      (draft.eventsOf settings event.part).count event := by
  have hcount : ∀ events : List Event, events.count event =
      (events.filterMap (Option.guard (· = event))).length := by
    intro events
    rw [List.filterMap_eq_filter, List.count_eq_length_filter]
    congr 2
  rw [hcount, hcount, filterMap_compileEvents]
  intro other result h
  obtain ⟨rfl, hother⟩ := Option.guard_eq_some_iff.mp h
  rw [of_decide_eq_true hother]

theorem mem_compileEvents_iff :
    event ∈ draft.compileEvents settings ↔ event ∈ draft.eventsOf settings event.part := by
  rw [← List.count_pos_iff, count_compileEvents, List.count_pos_iff]

def overridden (draft : Draft) (scene : Scene) : List String :=
  (draft.missing? scene.next).toList ++ scene.choices.filterMap fun choice ↦
    draft.missing? choice.next

theorem isSome_honoured?_normalize :
    (Reference.honoured? (draft.normalize settings).index (draft.normalize settings).hasEnding
      word).isSome ↔ draft.Has (Label.ofWord word) := by
  rw [Option.isSome_iff_exists]
  simp only [Reference.honoured?_eq_some_iff, exists_eq_left, available_normalize]

/-- The cover is never missing, so a reserved word that names nothing is the word for the ending. -/
theorem eq_ending_of_isReserved (hreserved : Label.isReserved word = true)
    (hmissing : ¬ draft.Has (Label.ofWord word)) : word = "ending" := by
  rw [Label.isReserved, Label.reserved?] at hreserved
  rw [Label.ofWord] at hmissing
  split_ifs at hreserved hmissing with hcover hending
  · exact absurd trivial hmissing
  · exact hending
  · cases hreserved

theorem filterMap_resolveEvents (settings : Settings) (draft : Draft) (reference : Option String) :
    ((draft.normalize settings).resolveEvents (filled reference)).filterMap Event.overridden? =
      (draft.missing? reference).toList := by
  rw [Script.resolveEvents, Reference.events, filled_filled]
  cases hword : filled reference with
  | none => simp [missing?, hword]
  | some word =>
    dsimp only
    by_cases hhas : draft.Has (Label.ofWord word)
    · have hmissing : draft.missing? reference = none := by
        rw [Option.eq_none_iff_forall_ne_some]
        intro other hother
        obtain ⟨heq, hmissing⟩ := missing?_eq_some_iff.mp hother
        cases hword.symm.trans heq
        exact hmissing hhas
      rw [if_pos (isSome_honoured?_normalize.mpr hhas), hmissing]
      rfl
    · have hmissing : draft.missing? reference = some word :=
        missing?_eq_some_iff.mpr ⟨hword, hhas⟩
      rw [if_neg (mt isSome_honoured?_normalize.mp hhas), hmissing]
      split_ifs with hreserved
      · rw [eq_ending_of_isReserved hreserved hhas]
        rfl
      · rfl

theorem filterMap_sceneEvents (settings : Settings) (draft : Draft) (id : String) (scene : Scene)
    (follower : Option String) :
    ((draft.normalize settings).sceneEvents (scene.normalize settings id follower)).filterMap
      Event.overridden? = draft.overridden scene := by
  have hchoices : ((scene.normalize settings id follower).choices.flatMap fun choice ↦
      (draft.normalize settings).resolveEvents choice.next) = scene.choices.flatMap fun choice ↦
        (draft.normalize settings).resolveEvents (filled choice.next) := by
    rw [← List.flatMap_map Script.Choice.next, map_next_normalize, List.flatMap_map]
  rw [Script.sceneEvents, hchoices, List.filterMap_append, List.filterMap_flatMap]
  simp only [filterMap_resolveEvents]
  change ((draft.normalize settings).resolveEvents (filled scene.next)).filterMap _ ++ _ = _
  rw [filterMap_resolveEvents, overridden, List.filterMap_eq_flatMap_toList]

theorem filterMap_sceneIssues (settings : Settings) (draft : Draft) (id : String) (scene : Scene) :
    (draft.sceneIssues settings id scene).filterMap Issue.overridden? = draft.overridden scene := by
  have hchoices : (scene.choices.zipIdx.filterMap fun entry ↦
      (draft.missing? entry.1.next).map (Issue.danglingChoice id entry.2)).filterMap
        Issue.overridden? = scene.choices.filterMap fun choice ↦ draft.missing? choice.next := by
    rw [List.filterMap_filterMap]
    conv_rhs => rw [← List.zipIdx_map_fst 0 scene.choices, List.filterMap_map]
    apply List.filterMap_congr
    intro entry _
    cases hmissing : draft.missing? entry.1.next <;> simp [hmissing, Issue.overridden?]
  have hnext : ((draft.missing? scene.next).map (Issue.danglingNext id)).toList.filterMap
      Issue.overridden? = (draft.missing? scene.next).toList := by
    cases draft.missing? scene.next <;> rfl
  -- The remaining findings are about the size of the scene.
  have hrest : ∀ (p : Prop) [Decidable p] (issue : Issue), issue.overridden? = none →
      (if p then [issue] else []).filterMap Issue.overridden? = [] := by
    intro p _ issue hissue
    split_ifs
    · simp [hissue]
    · rfl
  simp only [sceneIssues, List.filterMap_append, hchoices, hnext, overridden]
  rw [hrest _ _ rfl, hrest _ _ rfl, hrest _ _ rfl, hrest _ _ rfl]
  simp only [List.append_nil]

/-- Compilation comes to the scenes by their first places and a report by their last ones, but both
come to the same scenes. -/
theorem overridden_perm (settings : Settings) (draft : Draft) :
    ((draft.compileEvents settings).filterMap Event.overridden?).Perm
      ((draft.lint settings).issues.filterMap Issue.overridden?) := by
  rw [filterMap_compileEvents fun _ _ ↦ Event.part_of_overridden?,
    filterMap_issues_lint fun _ _ ↦ Issue.part_of_overridden?]
  have hevents : (draft.eventsOf settings .references).filterMap Event.overridden? =
      ((Occurrence.lasts draft.named).map fun entry ↦ (entry.1, entry.2.1)).flatMap fun entry ↦
        draft.overridden entry.2 := by
    change ((draft.mergedScenes settings).flatMap _).filterMap _ = _
    rw [mergedScenes_eq_map, List.filterMap_flatMap, List.flatMap_map, List.flatMap_map]
    simp only [filterMap_sceneEvents]
  have hissues : (draft.issuesOf settings .scenes).filterMap Issue.overridden? =
      (Occurrence.finals draft.named).flatMap fun entry ↦ draft.overridden entry.2 := by
    rw [issuesOf, usedSceneIssues_eq_flatMap, List.filterMap_flatMap]
    simp only [filterMap_sceneIssues]
  rw [hevents, hissues]
  exact (Occurrence.map_lasts_perm_finals draft.named).flatMap_right _

theorem filterMap_repetitionEvents (draft : Draft) (id : String) :
    draft.repetitionEvents.filterMap (Event.repetition? id) =
      Occurrence.repetitions id draft.ids := by
  rw [repetitionEvents, List.filterMap_filterMap, Occurrence.repetitions]
  apply List.filterMap_congr
  rintro ⟨other, position⟩ _
  by_cases hother : other = id
  · subst hother
    cases hlast : Occurrence.lastIndex? other (draft.ids.take position) <;>
      simp [hlast, Event.repetition?]
  · cases hlast : Occurrence.lastIndex? other (draft.ids.take position) <;>
      simp [hother, hlast, Event.repetition?]

theorem repetitions_compileEvents (settings : Settings) (draft : Draft) (id : String) :
    (draft.compileEvents settings).filterMap (Event.repetition? id) =
      (draft.ids.findIdxs (· = id)).zip (draft.ids.findIdxs (· = id)).tail := by
  rw [filterMap_compileEvents fun _ _ ↦ Event.part_of_repetition?]
  exact (filterMap_repetitionEvents draft id).trans (Occurrence.repetitions_eq_zip id draft.ids)

theorem length_repetitions_compileEvents (settings : Settings) (draft : Draft) (id : String) :
    ((draft.compileEvents settings).filterMap (Event.repetition? id)).length =
      draft.ids.count id - 1 := by
  have hlength : (draft.ids.findIdxs (· = id)).length = draft.ids.count id := by
    rw [List.length_findIdxs, List.count_eq_countP]
    apply List.countP_congr
    simp
  rw [repetitions_compileEvents, List.length_zip, List.length_tail, hlength]
  omega

theorem duplicateId_mem_lint_iff {positions : List Nat} :
    .duplicateId id positions ∈ (draft.lint settings).issues ↔
      positions = draft.positionsOf id ∧ 1 < draft.ids.count id := by
  refine (mem_issues_lint_iff_of_ids rfl).trans ?_
  change id ∈ draft.ids ∧ .duplicateId id positions ∈ draft.idIssues settings id ↔ _
  rw [mem_idIssues_iff, length_positionsOf]
  constructor
  · intro h
    obtain ⟨_, ⟨hcount, heq⟩ | ⟨_, heq⟩ | ⟨_, heq⟩⟩ := h <;> cases heq
    exact ⟨rfl, hcount⟩
  · intro h
    obtain ⟨rfl, hcount⟩ := h
    have hid : id ∈ draft.ids := List.count_pos_iff.mp (Nat.lt_of_succ_lt hcount)
    exact ⟨hid, .inl ⟨hcount, rfl⟩⟩

theorem reservedId_mem_lint_iff :
    .reservedId id ∈ (draft.lint settings).issues ↔
      id ∈ draft.ids ∧ Label.isReserved id = true := by
  refine (mem_issues_lint_iff_of_ids rfl).trans (and_congr_right fun _ ↦ ?_)
  rw [mem_idIssues_iff]
  constructor
  · intro h
    obtain ⟨_, heq⟩ | ⟨hreserved, _⟩ | ⟨_, heq⟩ := h
    · cases heq
    · exact hreserved
    · cases heq
  · intro h
    exact .inr (.inl ⟨h, rfl⟩)

theorem count_reservedId_compileEvents (settings : Settings) (draft : Draft) (id : String) :
    (draft.compileEvents settings).count (.reservedId id) =
      (draft.lint settings).issues.count (.reservedId id) := by
  have hnodup : draft.reservedEvents.Nodup :=
    ((Occurrence.nodup_distinct draft.ids).filter _).map fun _ _ ↦ Event.reservedId.inj
  have hmem : .reservedId id ∈ draft.reservedEvents ↔
      .reservedId id ∈ (draft.lint settings).issues := by
    rw [reservedId_mem_lint_iff]
    simp [reservedEvents, Occurrence.mem_distinct]
  rw [count_compileEvents]
  change draft.reservedEvents.count (.reservedId id) = _
  rw [hnodup.count, (nodup_issues_lint settings draft).count]
  simp only [hmem]

theorem versionDiffers_mem_compileEvents_iff {found : String} :
    .versionDiffers found ∈ draft.compileEvents settings ↔
      .versionMismatch found ∈ (draft.lint settings).issues := by
  have hevent : .versionDiffers found ∈ draft.compileEvents settings ↔ ∃ version,
      draft.version = some version ∧ version ≠ currentVersion ∧
        Event.versionDiffers found = .versionDiffers version :=
    mem_compileEvents_iff.trans mem_versionEvents_iff
  have hissue : .versionMismatch found ∈ (draft.lint settings).issues ↔ ∃ version,
      draft.version = some version ∧ version ≠ currentVersion ∧
        Issue.versionMismatch found = .versionMismatch version :=
    mem_issues_lint_iff.trans mem_versionIssues_iff
  rw [hevent, hissue]
  simp only [Event.versionDiffers.injEq, Issue.versionMismatch.injEq]

/-- A log and a report tell of the same recoveries. Scenes without an id have the same positions in
both. The repetitions of an id form a chain with one event less than the id has scenes, and are
logged only if the id is reported as repeated. A reserved id is logged as often as it is reported, a
foreign version is logged exactly if it is reported, and the references that the log says were
overridden are those of the report, each as often. -/
theorem recoveries_agree (settings : Settings) (draft : Draft) :
    (draft.compileEvents settings).filterMap Event.unnamedPosition? =
        (draft.lint settings).issues.filterMap Issue.unnamedPosition? ∧
      (∀ id,
        ((draft.compileEvents settings).filterMap (Event.repetition? id)).IsChain
            (fun earlier later ↦ later.1 = earlier.2) ∧
          ((draft.compileEvents settings).filterMap (Event.repetition? id)).length =
            (draft.scenes.countP fun scene ↦ scene.name? = some id) - 1 ∧
          (∀ positions, .duplicateId id positions ∈ (draft.lint settings).issues →
            positions.length = draft.scenes.countP fun scene ↦ scene.name? = some id) ∧
          ((∀ positions, .duplicateId id positions ∉ (draft.lint settings).issues) →
            (draft.compileEvents settings).filterMap (Event.repetition? id) = [])) ∧
      (∀ id, (draft.compileEvents settings).count (.reservedId id) =
        (draft.lint settings).issues.count (.reservedId id)) ∧
      (∀ found, .versionDiffers found ∈ draft.compileEvents settings ↔
        .versionMismatch found ∈ (draft.lint settings).issues) ∧
      ((draft.compileEvents settings).filterMap Event.overridden?).Perm
        ((draft.lint settings).issues.filterMap Issue.overridden?) := by
  have hunnamed : (draft.eventsOf settings .unnamed).filterMap Event.unnamedPosition? =
      (draft.issuesOf settings .unnamed).filterMap Issue.unnamedPosition? := by
    rw [eventsOf, issuesOf, List.filterMap_map, List.filterMap_map]
    rfl
  refine ⟨?_, ?_, count_reservedId_compileEvents settings draft,
    fun _ ↦ versionDiffers_mem_compileEvents_iff, overridden_perm settings draft⟩
  · rw [filterMap_compileEvents fun _ _ ↦ Event.part_of_unnamedPosition?, hunnamed,
      filterMap_issues_lint fun _ _ ↦ Issue.part_of_unnamedPosition?]
  · intro id
    have hlength := length_repetitions_compileEvents settings draft id
    rw [← count_ids]
    refine ⟨?_, hlength, ?_, ?_⟩
    · rw [repetitions_compileEvents]
      exact isChain_zip_tail _
    · intro positions hpositions
      rw [(duplicateId_mem_lint_iff.mp hpositions).1, length_positionsOf]
    · intro hnone
      have hcount : ¬ 1 < draft.ids.count id := by
        intro hcount
        exact hnone _ (duplicateId_mem_lint_iff.mpr ⟨rfl, hcount⟩)
      apply List.eq_nil_of_length_eq_zero
      omega

def tangledDraft : Draft where
  version := some "0.9"
  cover := none
  scenes := [⟨some "gate", none, none, [], [], some "moat"⟩, ⟨none, none, none, [], [], none⟩,
    ⟨some "ending", none, none, [], [⟨none, some "attic"⟩], some "ending"⟩,
    ⟨some "gate", none, none, [], [⟨none, some "ending"⟩], none⟩]
  ending := none
  startScene := none

theorem recoveries_agree_tangledDraft :
    .duplicateId "gate" [0, 3] ∈ (tangledDraft.lint {}).issues ∧
      ((tangledDraft.compileEvents {}).filterMap (Event.repetition? "gate")).length = 1 ∧
      (∀ positions, .duplicateId "ending" positions ∉ (tangledDraft.lint {}).issues) ∧
      (tangledDraft.compileEvents {}).filterMap (Event.repetition? "ending") = [] ∧
      ((tangledDraft.compileEvents {}).filterMap Event.overridden?).Perm
        ((tangledDraft.lint {}).issues.filterMap Issue.overridden?) := by
  obtain ⟨_, hrepetitions, _, _, hperm⟩ := recoveries_agree {} tangledDraft
  have hgate : .duplicateId "gate" [0, 3] ∈ (tangledDraft.lint {}).issues :=
    duplicateId_mem_lint_iff.mpr ⟨by decide, by decide⟩
  have hending : ∀ positions, .duplicateId "ending" positions ∉ (tangledDraft.lint {}).issues := by
    intro positions h
    exact absurd (duplicateId_mem_lint_iff.mp h).2 (by decide)
  obtain ⟨_, hlength, _, _⟩ := hrepetitions "gate"
  obtain ⟨_, _, _, hnone⟩ := hrepetitions "ending"
  exact ⟨hgate, hlength, hending, hnone hending, hperm⟩

end Draft

end StoryGraph
