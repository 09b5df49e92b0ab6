import StoryGraph.Reference

namespace StoryGraph

def Label.ofWord (word : String) : Label :=
  if word = "cover" then cover else if word = "ending" then ending else scene word

theorem Label.ofWord_eq (word : String) :
    ofWord word = (reserved? word).getD (scene word) := by
  unfold ofWord reserved?
  split
  · rfl
  · split <;> rfl

theorem filled_eq_some_iff {text : Option String} {word : String} :
    filled text = some word ↔ text = some word ∧ word ≠ "" := by
  simp [filled, Option.filter_eq_some_iff]

namespace Reference

variable (index : SceneIndex) (hasEnding : Bool)

def Available : Label → Prop
  | .cover => True
  | .ending => hasEnding = true
  | .scene id => id ∈ index.ids

variable {index hasEnding} {candidate : Option String} {fallback : Option Label} {word : String}
  {label : Label}

theorem some_eq_some_iff_available {reached : Label} (h : Available index hasEnding reached) :
    some reached = some label ↔ label = reached ∧ Available index hasEnding label := by
  rw [Option.some.injEq]
  constructor
  · intro heq
    rw [← heq]
    exact ⟨rfl, h⟩
  · intro heq
    exact heq.1.symm

theorem not_eq_and_available {reached : Label} (h : ¬ Available index hasEnding reached) :
    ¬ (label = reached ∧ Available index hasEnding label) := by
  intro hreached
  obtain ⟨rfl, havailable⟩ := hreached
  exact h havailable

theorem honoured?_eq_some_iff :
    honoured? index hasEnding word = some label ↔
      label = Label.ofWord word ∧ Available index hasEnding label := by
  rw [honoured?, Label.ofWord_eq]
  cases hword : Label.reserved? word with
  | none =>
    by_cases hmem : word ∈ index.ids
    · have hcontains : index.contains word = true := by simpa [SceneIndex.contains] using hmem
      rw [hcontains]
      exact some_eq_some_iff_available hmem
    · have hcontains : index.contains word = false := by simpa [SceneIndex.contains] using hmem
      rw [hcontains]
      exact iff_of_false nofun (not_eq_and_available hmem)
  | some reserved =>
    cases reserved with
    | cover => exact some_eq_some_iff_available trivial
    | ending =>
      cases hasEnding with
      | false => exact iff_of_false nofun (not_eq_and_available nofun)
      | true => exact some_eq_some_iff_available rfl
    | scene id => exact absurd hword (Label.reserved?_ne_scene word id)

theorem fallback?_eq_some_iff :
    fallback? index fallback = some label ↔
      ∃ id ∈ index.ids, fallback = some (.scene id) ∧ label = .scene id := by
  cases fallback with
  | none => simp [fallback?]
  | some fallback =>
    cases fallback with
    | cover | ending => simp [fallback?, Label.sceneId?]
    | scene id =>
      have hscene : fallback? index (some (.scene id)) = some label ↔
          id ∈ index.ids ∧ label = .scene id := by
        simp [fallback?, Label.sceneId?, SceneIndex.contains, eq_comm]
      rw [hscene]
      constructor
      · intro h
        obtain ⟨hid, rfl⟩ := h
        exact ⟨id, hid, rfl, rfl⟩
      · intro h
        obtain ⟨_, hid, hsome, hlabel⟩ := h
        cases hsome
        exact ⟨hid, hlabel⟩

theorem available_last : Available index hasEnding (last hasEnding) := by
  cases hasEnding <;> simp [last, Available]

theorem resolve_of_honoured (h : (filled candidate).bind (honoured? index hasEnding) = some label) :
    resolve index hasEnding candidate fallback = label := by
  simp only [resolve, h]

theorem resolve_of_not_honoured
    (h : (filled candidate).bind (honoured? index hasEnding) = none) :
    resolve index hasEnding candidate fallback =
      (fallback? index fallback).getD (last hasEnding) := by
  simp only [resolve, h]

/-- Whatever an author writes, the story goes on to a label that it has. -/
theorem available_resolve :
    Available index hasEnding (resolve index hasEnding candidate fallback) := by
  cases hcandidate : (filled candidate).bind (honoured? index hasEnding) with
  | some label =>
    rw [resolve_of_honoured hcandidate]
    obtain ⟨word, _, hword⟩ := Option.bind_eq_some_iff.mp hcandidate
    exact (honoured?_eq_some_iff.mp hword).2
  | none =>
    rw [resolve_of_not_honoured hcandidate]
    cases hfallback : fallback? index fallback with
    | some label =>
      obtain ⟨id, hid, _, rfl⟩ := fallback?_eq_some_iff.mp hfallback
      exact hid
    | none => exact available_last

/-- A reference is followed if and only if the story has the label that it means. -/
theorem resolve_eq_ofWord_iff (h : filled candidate = some word) :
    resolve index hasEnding candidate fallback = Label.ofWord word ↔
      Available index hasEnding (Label.ofWord word) := by
  constructor
  · intro heq
    rw [← heq]
    exact available_resolve
  · intro havailable
    apply resolve_of_honoured
    rw [h]
    exact honoured?_eq_some_iff.mpr ⟨rfl, havailable⟩

end Reference

end StoryGraph
