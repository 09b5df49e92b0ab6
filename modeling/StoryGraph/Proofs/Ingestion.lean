import StoryGraph.Graph.Compile
import StoryGraph.Proofs.Occurrence
import StoryGraph.Proofs.Tolerance

namespace StoryGraph

namespace Json

mutual

def collapsed : Json → Json
  | null => null
  | bool b => bool b
  | number n => number n
  | string s => string s
  | array items => array (collapsedItems items)
  | object members => object (collapsedMembers members)
termination_by structural value => value

def collapsedItems : List Json → List Json
  | [] => []
  | item :: items => collapsed item :: collapsedItems items
termination_by structural items => items

def collapsedMember : String × Json → String × Json
  | (name, value) => (name, collapsed value)
termination_by structural member => member

def collapsedMembers : List (String × Json) → List (String × Json)
  | [] => []
  | member :: members =>
    if member.1 ∈ members.map Prod.fst then collapsedMembers members
    else collapsedMember member :: collapsedMembers members
termination_by structural members => members

end

variable {members : Members} {name : String} {value : Json}

theorem collapsedItems_eq_map (items : List Json) : collapsedItems items = items.map collapsed := by
  induction items with
  | nil => rfl
  | cons item items ih => rw [collapsedItems, ih, List.map_cons]

theorem collapsedMembers_eq_map (members : Members) :
    collapsedMembers members = (Occurrence.finals members).map collapsedMember := by
  induction members with
  | nil => rfl
  | cons member members ih =>
    rw [collapsedMembers, Occurrence.finals, ih]
    split_ifs <;> rfl

theorem map_fst_collapsedMembers (members : Members) :
    (collapsedMembers members).map Prod.fst = (Occurrence.finals members).map Prod.fst := by
  have hname : Prod.fst ∘ collapsedMember = Prod.fst := funext fun (_, _) ↦ rfl
  rw [collapsedMembers_eq_map, List.map_map, hname]

theorem Members.get?_collapsed (members : Members) (name : String) :
    Members.get? (collapsedMembers members) name = (members.get? name).map collapsed := by
  induction members with
  | nil => rfl
  | cons member members ih =>
    obtain ⟨other, value⟩ := member
    rw [collapsedMembers, get?_cons]
    by_cases hagain : other ∈ members.map Prod.fst
    · -- The member that comes again has a later one for its name.
      have hlater : other = name → (get? members name).isSome := by
        rintro rfl
        obtain ⟨⟨_, later⟩, hmem, rfl⟩ := List.mem_map.mp hagain
        exact isSome_get?_iff.mpr ⟨later, hmem⟩
      rw [if_pos hagain, ih]
      by_cases hname : other = name
      · obtain ⟨found, hfound⟩ := Option.isSome_iff_exists.mp (hlater hname)
        rw [hfound, Option.some_or]
      · rw [if_neg hname, Option.or_none]
    · rw [if_neg hagain, collapsedMember, get?_cons, ih, Option.map_or]
      by_cases hname : other = name <;> simp [hname]

mutual

theorem distinct_collapsed : ∀ value : Json, Distinct value.collapsed
  | null => .null
  | bool b => .bool b
  | number n => .number n
  | string s => .string s
  | array items => .array _ (distinct_collapsedItems items)
  | object members => by
    refine .object _ ?_ (distinct_collapsedMembers members)
    rw [map_fst_collapsedMembers]
    exact Occurrence.nodup_map_fst_finals members
termination_by structural value => value

theorem distinct_collapsedItems : ∀ items : List Json, ∀ item ∈ collapsedItems items, Distinct item
  | [] => nofun
  | item :: items =>
    List.forall_mem_cons.mpr ⟨distinct_collapsed item, distinct_collapsedItems items⟩
termination_by structural items => items

theorem distinct_collapsedMember : ∀ member : String × Json, Distinct (collapsedMember member).2
  | (_, value) => distinct_collapsed value
termination_by structural member => member

theorem distinct_collapsedMembers : ∀ members : List (String × Json),
    ∀ member ∈ collapsedMembers members, Distinct member.2
  | [] => nofun
  | member :: members => by
    rw [collapsedMembers]
    split_ifs
    · exact distinct_collapsedMembers members
    · exact List.forall_mem_cons.mpr
        ⟨distinct_collapsedMember member, distinct_collapsedMembers members⟩
termination_by structural members => members

end

theorem text?_collapsed (value : Json) : value.collapsed.text? = value.text? := by
  cases value <;> rfl

theorem reference?_collapsed (value : Json) : value.collapsed.reference? = value.reference? := by
  cases value <;> rfl

theorem members?_collapsed (value : Json) :
    value.collapsed.members? = value.members?.map collapsedMembers := by
  cases value <;> rfl

theorem entries_collapsed (value : Json) :
    value.collapsed.entries = value.entries.map collapsedMembers := by
  cases value with
  | array items =>
    rw [collapsed, collapsedItems_eq_map, entries, entries, List.filterMap_map,
      List.map_filterMap]
    apply List.filterMap_congr
    intro item _
    exact members?_collapsed item
  | _ => rfl

end Json

namespace Draft

open Json (Members collapsedMembers)

variable {α : Type} {members : Members} {name : String} {value : Json} {limits limits' : Limits}
  {settings : Settings} {text : String} {result : Except DraftError (Option Draft)}

@[simp]
theorem textAt_collapsed (members : Members) (name : String) :
    textAt (collapsedMembers members) name = textAt members name := by
  rw [textAt, textAt, Json.Members.get?_collapsed, Option.bind_map]
  exact congrArg _ (funext Json.text?_collapsed)

@[simp]
theorem referenceAt_collapsed (members : Members) (name : String) :
    referenceAt (collapsedMembers members) name = referenceAt members name := by
  rw [referenceAt, referenceAt, Json.Members.get?_collapsed, Option.bind_map]
  exact congrArg _ (funext Json.reference?_collapsed)

section

variable {read : Members → α}

theorem map_entriesAt_collapsed (h : ∀ inner, read (collapsedMembers inner) = read inner)
    (members : Members) (name : String) :
    (entriesAt (collapsedMembers members) name).map read = (entriesAt members name).map read :=
  map_entriesAt_of_get? (members.get?_collapsed name) Json.entries_collapsed h

theorem map_sectionAt_collapsed (h : ∀ inner, read (collapsedMembers inner) = read inner)
    (members : Members) (name : String) :
    (sectionAt (collapsedMembers members) name).map read = (sectionAt members name).map read :=
  map_sectionAt_of_get? (members.get?_collapsed name) Json.members?_collapsed h

end

theorem Cover.ofMembers_collapsed (members : Members) :
    ofMembers (collapsedMembers members) = ofMembers members := by
  simp [ofMembers]

theorem Line.ofMembers_collapsed (members : Members) :
    ofMembers (collapsedMembers members) = ofMembers members := by
  simp [ofMembers]

theorem Choice.ofMembers_collapsed (members : Members) :
    ofMembers (collapsedMembers members) = ofMembers members := by
  simp [ofMembers]

theorem Ending.ofMembers_collapsed (members : Members) :
    ofMembers (collapsedMembers members) = ofMembers members := by
  simp [ofMembers]

theorem Scene.ofMembers_collapsed (members : Members) :
    ofMembers (collapsedMembers members) = ofMembers members := by
  simp [ofMembers, map_entriesAt_collapsed Line.ofMembers_collapsed,
    map_entriesAt_collapsed Choice.ofMembers_collapsed]

theorem ofMembers_collapsed (members : Members) :
    ofMembers (collapsedMembers members) = ofMembers members := by
  have hstart : startSceneName (collapsedMembers members) = startSceneName members := by
    rw [startSceneName, startSceneName, Json.Members.get?_collapsed, Option.isSome_map]
  simp [ofMembers, hstart, map_sectionAt_collapsed Cover.ofMembers_collapsed,
    map_entriesAt_collapsed Scene.ofMembers_collapsed,
    map_sectionAt_collapsed Ending.ofMembers_collapsed]

theorem ofJsonAccepted_collapsed (value : Json) :
    ofJsonAccepted value.collapsed = .ok (ofJson? value) := by
  have hmembers : ofMembers ∘ collapsedMembers = ofMembers := funext ofMembers_collapsed
  rw [ofJsonAccepted_eq value.distinct_collapsed, ofJson?, ofJson?, Json.members?_collapsed,
    Option.map_map, hmembers]

def sceneCount (members : Members) : Nat :=
  match members.get? "scenes" with
  | some (.array items) => items.countP fun item ↦ item.members?.isSome
  | _ => 0

theorem length_scenes_ofMembers (members : Members) :
    (ofMembers members).scenes.length = sceneCount members := by
  change ((entriesAt members "scenes").map _).length = _
  rw [List.length_map, entriesAt, sceneCount]
  cases members.get? "scenes" with
  | none => rfl
  | some value =>
    cases value with
    | array items => exact List.length_filterMap_eq_countP
    | _ => rfl

/-- Reads a document in steps of which each may fail. The reader of values has errors of its own,
for the values that it refuses. -/
def readAccepted (limits : Limits) (text : String) : Except (DraftError ⊕ String) (Option Draft) :=
  if limits.maxScriptBytes < text.utf8ByteSize then
    .error (.inl (.tooManyBytes text.utf8ByteSize limits.maxScriptBytes))
  else
    match Json.parse text with
    | .error error => .error (.inl (.malformed error (error.excerpt text)))
    | .ok value =>
      match ofJsonAccepted value.collapsed with
      | .error message => .error (.inr message)
      | .ok none => .ok none
      | .ok (some draft) =>
        if limits.maxScenes < draft.scenes.length then
          .error (.inl (.tooManyScenes draft.scenes.length limits.maxScenes))
        else .ok (some draft)

/-- What comes of a document. A text that is too long is not looked into. Scenes count with or
without an id, and repeated ones as often as they are written. -/
inductive Outcome (limits : Limits) (text : String) : Except DraftError (Option Draft) → Prop
  | tooManyBytes (h : limits.maxScriptBytes < text.utf8ByteSize) :
      Outcome limits text (.error (.tooManyBytes text.utf8ByteSize limits.maxScriptBytes))
  | malformed {error : Json.SyntaxError} (h : text.utf8ByteSize ≤ limits.maxScriptBytes)
      (hparse : Json.parse text = .error error) :
      Outcome limits text (.error (.malformed error (error.excerpt text)))
  | notConfigured {value : Json} (h : text.utf8ByteSize ≤ limits.maxScriptBytes)
      (hparse : Json.parse text = .ok value) (hvalue : ∀ members, value ≠ .object members) :
      Outcome limits text (.ok none)
  | tooManyScenes {members : Members} (h : text.utf8ByteSize ≤ limits.maxScriptBytes)
      (hparse : Json.parse text = .ok (.object members))
      (hcount : limits.maxScenes < sceneCount members) :
      Outcome limits text (.error (.tooManyScenes (sceneCount members) limits.maxScenes))
  | draft {members : Members} (h : text.utf8ByteSize ≤ limits.maxScriptBytes)
      (hparse : Json.parse text = .ok (.object members))
      (hcount : sceneCount members ≤ limits.maxScenes) :
      Outcome limits text (.ok (some (ofMembers members)))

theorem outcome_read (limits : Limits) (text : String) :
    Outcome limits text (read limits text) := by
  unfold read
  split_ifs with hbytes
  · exact .tooManyBytes hbytes
  · rw [Nat.not_lt] at hbytes
    cases hparse : Json.parse text with
    | error error => exact .malformed hbytes hparse
    | ok value =>
      cases value with
      | object members =>
        change Outcome limits text (if _ < (ofMembers members).scenes.length then _ else _)
        rw [length_scenes_ofMembers]
        split_ifs with hcount
        · exact .tooManyScenes hbytes hparse hcount
        · exact .draft hbytes hparse (Nat.not_lt.mp hcount)
      | _ => exact .notConfigured hbytes hparse nofun

theorem Outcome.read_eq (h : Outcome limits text result) : read limits text = result := by
  cases h with
  | tooManyBytes h => rw [read, if_pos h]
  | malformed h hparse => rw [read, if_neg h.not_gt, hparse]
  | notConfigured h hparse hvalue =>
    rw [read, if_neg h.not_gt, hparse]
    simp only [ofJson?_eq_none_iff.mpr hvalue]
  | tooManyScenes h hparse hcount =>
    rw [← length_scenes_ofMembers] at hcount ⊢
    rw [read, if_neg h.not_gt, hparse]
    exact if_pos hcount
  | draft h hparse hcount =>
    rw [← length_scenes_ofMembers] at hcount
    rw [read, if_neg h.not_gt, hparse]
    exact if_neg hcount.not_gt

theorem read_eq_iff_outcome : read limits text = result ↔ Outcome limits text result := by
  constructor
  · rintro rfl
    exact outcome_read limits text
  · exact Outcome.read_eq

theorem read_ne_notConfigured : read limits text ≠ .error .notConfigured := by
  intro h
  cases read_eq_iff_outcome.mp h

theorem readAccepted_eq (limits : Limits) (text : String) :
    readAccepted limits text = (read limits text).mapError .inl := by
  unfold readAccepted read
  split_ifs with hbytes
  · rfl
  · cases Json.parse text with
    | error error => rfl
    | ok value =>
      simp only [ofJsonAccepted_collapsed]
      cases ofJson? value with
      | none => rfl
      | some draft =>
        dsimp only
        split_ifs <;> rfl

/-- A success says of a text that it is within the budgets, so it is within greater ones. -/
theorem Outcome.raise {draft? : Option Draft} (h : Outcome limits text (.ok draft?))
    (hbytes : limits.maxScriptBytes ≤ limits'.maxScriptBytes)
    (hscenes : limits.maxScenes ≤ limits'.maxScenes) : Outcome limits' text (.ok draft?) := by
  cases h with
  | notConfigured h hparse hvalue => exact .notConfigured (h.trans hbytes) hparse hvalue
  | draft h hparse hcount => exact .draft (h.trans hbytes) hparse (hcount.trans hscenes)

theorem compileText_eq_error_iff {error : DraftError} : compileText settings text = .error error ↔
    read settings.limits text = .error error ∨
      read settings.limits text = .ok none ∧ error = .notConfigured := by
  unfold compileText
  cases read settings.limits text with
  | error _ => simp
  | ok draft? => cases draft? <;> simp [eq_comm]

theorem compileText_eq_ok_iff {graph : Graph} : compileText settings text = .ok graph ↔
    ∃ draft, read settings.limits text = .ok (some draft) ∧ draft.compile settings = graph := by
  unfold compileText
  cases read settings.limits text with
  | error _ => simp
  | ok draft? => cases draft? <;> simp

/-- A document comes to one of five outcomes, each with its condition, and the reader that can fail
comes to no other. Compiling fails where reading fails, finds nothing where there is no draft, and
otherwise gives the graph of the draft. Where the two enforced budgets are raised, and the others
changed at will, every success stays what it is. -/
theorem read_outcomes (settings : Settings) (text : String) :
    (∀ result, read settings.limits text = result ↔ Outcome settings.limits text result) ∧
      readAccepted settings.limits text = (read settings.limits text).mapError .inl ∧
      (∀ error, compileText settings text = .error error ↔
        read settings.limits text = .error error ∨
          read settings.limits text = .ok none ∧ error = .notConfigured) ∧
      (compileText settings text = .error .notConfigured ↔
        read settings.limits text = .ok none) ∧
      (∀ graph, compileText settings text = .ok graph ↔
        ∃ draft, read settings.limits text = .ok (some draft) ∧ draft.compile settings = graph) ∧
      ∀ limits : Limits, settings.limits.maxScriptBytes ≤ limits.maxScriptBytes →
        settings.limits.maxScenes ≤ limits.maxScenes →
          (∀ draft?, read settings.limits text = .ok draft? → read limits text = .ok draft?) ∧
            ∀ graph, compileText settings text = .ok graph →
              compileText { settings with limits } text = .ok graph := by
  refine ⟨fun _ ↦ read_eq_iff_outcome, readAccepted_eq settings.limits text,
    fun _ ↦ compileText_eq_error_iff, ?_, fun _ ↦ compileText_eq_ok_iff, ?_⟩
  · rw [compileText_eq_error_iff]
    simp [read_ne_notConfigured]
  · intro limits hbytes hscenes
    have hread : ∀ draft?, read settings.limits text = .ok draft? →
        read limits text = .ok draft? := by
      intro draft? h
      exact ((read_eq_iff_outcome.mp h).raise hbytes hscenes).read_eq
    refine ⟨hread, ?_⟩
    intro graph h
    obtain ⟨draft, hdraft, rfl⟩ := compileText_eq_ok_iff.mp h
    exact compileText_eq_ok_iff.mpr ⟨draft, hread _ hdraft, rfl⟩

def twoScenes : String := "\x7b\"scenes\":[\x7b\x7d,1,\x7b\"id\":\"a\"\x7d]\x7d"

theorem read_outcomes_twoScenes :
    compileText { limits := { maxScenes := 1 } } twoScenes = .error (.tooManyScenes 2 1) ∧
      ∃ draft, read { maxScriptBytes := 28, maxScenes := 2 } twoScenes = .ok (some draft) ∧
        read {} twoScenes = .ok (some draft) := by
  have hparse : Json.parse twoScenes = .ok (.object [("scenes",
    .array [.object [], .nat 1, .object [("id", .string "a")]])]) := rfl
  obtain ⟨hfew, _, hfewError, _⟩ := read_outcomes { limits := { maxScenes := 1 } } twoScenes
  obtain ⟨houtcome, _, _, _, _, hraised⟩ :=
    read_outcomes { limits := { maxScriptBytes := 28, maxScenes := 2 } } twoScenes
  have hread := (houtcome _).mpr (.draft (by decide) hparse (by decide))
  refine ⟨(hfewError _).mpr (.inl ?_), _, hread, (hraised {} (by decide) (by decide)).1 _ hread⟩
  exact (hfew _).mpr (.tooManyScenes (by decide) hparse (by decide))

end Draft

end StoryGraph
