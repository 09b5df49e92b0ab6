import StoryGraph.Proofs.Members

namespace StoryGraph.Draft

open Json (Members Distinct)

variable {α : Type} {members inner : Members} {name : String} {value : Json}

section Accepted

variable (names : List String) (read : Members → α) (accepted : Members → Except String α)
  (members : Members) (name : String)

def recordAccepted : Except String α := (members.acceptAll names).map read

def entriesAccepted : List α :=
  (entriesAt members name).filterMap fun inner ↦ (accepted inner).toOption

def sectionAccepted : Option α :=
  (sectionAt members name).bind fun inner ↦ (accepted inner).toOption

end Accepted

def Cover.names : List String :=
  ["image", "background", "title", "subtitle", "description", "cta"]

def Line.names : List String := ["speaker", "text"]

def Choice.names : List String := ["label", "next"]

def Scene.names : List String := ["id", "background", "accent", "dialogue", "choices", "next"]

def Ending.names : List String := ["image", "title", "message", "cta"]

def Cover.accepted : Members → Except String Cover := recordAccepted names ofMembers

def Line.accepted : Members → Except String Line := recordAccepted names ofMembers

def Choice.accepted : Members → Except String Choice := recordAccepted names ofMembers

def Ending.accepted : Members → Except String Ending := recordAccepted names ofMembers

def Scene.accepted : Members → Except String Scene := recordAccepted names fun members ↦
  { ofMembers members with
    dialogue := entriesAccepted Line.accepted members "dialogue"
    choices := entriesAccepted Choice.accepted members "choices" }

def fieldName (name : String) : String := if name = "start_scene" then "startScene" else name

def renamed (members : Members) : Members := members.map fun m ↦ (fieldName m.1, m.2)

def accepted (members : Members) : Except String Draft :=
  recordAccepted fieldNames.flatten (fun members ↦
    { version := textAt members "script_schema_version"
      cover := sectionAccepted Cover.accepted members "cover"
      scenes := entriesAccepted Scene.accepted members "scenes"
      ending := sectionAccepted Ending.accepted members "ending"
      startScene := referenceAt members "startScene" }) (renamed members)

/-- The second name of the start scene is given up beside the first. -/
def withOneStart (members : Members) : Members :=
  if (members.get? "startScene").isSome then members.filter fun m ↦ m.1 ≠ "start_scene" else members

/-- Reads an object and refuses a field that is written twice. Another value is no draft. -/
def ofJsonAccepted (value : Json) : Except String (Option Draft) :=
  match value.members? with
  | none => .ok none
  | some members => (accepted (withOneStart members)).map some

theorem distinct_of_mem_entriesAt (h : Distinct (.object members))
    (hinner : inner ∈ entriesAt members name) : Distinct (.object inner) := by
  cases hget : Json.Members.get? members name with
  | none => simp [entriesAt, hget] at hinner
  | some value =>
    have hvalue : Distinct value := h.of_mem (Json.Members.mem_of_get?_eq_some hget)
    rw [entriesAt, hget] at hinner
    cases hvalue with
    | array items each =>
      obtain ⟨item, hitem, hmembers⟩ := List.mem_filterMap.mp hinner
      have hdistinct := each item hitem
      rwa [Json.members?_eq_some_iff.mp hmembers] at hdistinct
    | _ => simp [Json.entries] at hinner

theorem distinct_of_sectionAt (h : Distinct (.object members))
    (hinner : sectionAt members name = some inner) : Distinct (.object inner) := by
  obtain ⟨value, hget, hmembers⟩ := Option.bind_eq_some_iff.mp hinner
  rw [Json.members?_eq_some_iff.mp hmembers] at hget
  exact h.of_mem (Json.Members.mem_of_get?_eq_some hget)

/-- Two objects are read alike if the same stands under these names in both. -/
def LooksAt (names : List String) (read : Members → α) : Prop :=
  ∀ members members' : Members, (∀ name ∈ names, members.get? name = members'.get? name) →
    read members = read members'

section

variable {names : List String} {read : Members → α} {accepted : Members → Except String α}

theorem LooksAt.known (h : LooksAt names read) (members : Members) :
    read (Json.Members.known names members) = read members :=
  h _ _ fun _ hname ↦ Json.Members.get?_known hname

theorem recordAccepted_eq (hread : LooksAt names read) (h : (members.map Prod.fst).Nodup) :
    recordAccepted names read members = .ok (read members) := by
  rw [recordAccepted, Json.Members.acceptAll_eq h]
  exact congrArg Except.ok (hread.known members)

theorem entriesAccepted_eq (h : Distinct (.object members))
    (haccepted : ∀ {inner}, Distinct (.object inner) → accepted inner = .ok (read inner)) :
    entriesAccepted accepted members name = (entriesAt members name).map read := by
  rw [entriesAccepted, ← List.filterMap_eq_map]
  refine List.filterMap_congr fun inner hinner ↦ ?_
  rw [haccepted (distinct_of_mem_entriesAt h hinner)]
  rfl

theorem sectionAccepted_eq (h : Distinct (.object members))
    (haccepted : ∀ {inner}, Distinct (.object inner) → accepted inner = .ok (read inner)) :
    sectionAccepted accepted members name = (sectionAt members name).map read := by
  cases hsection : sectionAt members name with
  | none => simp [sectionAccepted, hsection]
  | some inner =>
    rw [sectionAccepted, hsection, Option.bind_some,
      haccepted (distinct_of_sectionAt h hsection)]
    rfl

end

theorem Cover.looksAt : LooksAt names ofMembers := by
  intro members members' h
  rw [names] at h
  simp [ofMembers, textAt, h]

theorem Line.looksAt : LooksAt names ofMembers := by
  intro members members' h
  rw [names] at h
  simp [ofMembers, textAt, h]

theorem Choice.looksAt : LooksAt names ofMembers := by
  intro members members' h
  rw [names] at h
  simp [ofMembers, textAt, referenceAt, h]

theorem Ending.looksAt : LooksAt names ofMembers := by
  intro members members' h
  rw [names] at h
  simp [ofMembers, textAt, h]

theorem Cover.accepted_eq (h : Distinct (.object members)) :
    accepted members = .ok (ofMembers members) :=
  recordAccepted_eq looksAt h.names

theorem Line.accepted_eq (h : Distinct (.object members)) :
    accepted members = .ok (ofMembers members) :=
  recordAccepted_eq looksAt h.names

theorem Choice.accepted_eq (h : Distinct (.object members)) :
    accepted members = .ok (ofMembers members) :=
  recordAccepted_eq looksAt h.names

theorem Ending.accepted_eq (h : Distinct (.object members)) :
    accepted members = .ok (ofMembers members) :=
  recordAccepted_eq looksAt h.names

theorem Scene.accepted_eq (h : Distinct (.object members)) :
    accepted members = .ok (ofMembers members) := by
  refine (recordAccepted_eq (fun members members' hget ↦ ?_) h.names).trans ?_
  · rw [names] at hget
    simp [ofMembers, entriesAccepted, entriesAt, textAt, referenceAt, hget]
  · rw [entriesAccepted_eq h Line.accepted_eq, entriesAccepted_eq h Choice.accepted_eq]
    rfl

variable {m m' : String × Json}

theorem fieldName_eq_iff {other : String} (hne : name ≠ "startScene")
    (hne' : name ≠ "start_scene") : fieldName other = name ↔ other = name := by
  unfold fieldName
  split_ifs with hother
  · simp [hother, hne.symm, hne'.symm]
  · rfl

theorem fieldName_of_ne (h : fieldName name ≠ "startScene") : fieldName name = name := by
  unfold fieldName at h ⊢
  split_ifs at h ⊢
  · exact absurd rfl h
  · rfl

theorem withOneStart_sublist : (withOneStart members).Sublist members := by
  unfold withOneStart
  split_ifs
  · exact List.filter_sublist
  · exact .refl members

theorem get?_withOneStart (hne : name ≠ "start_scene") :
    (withOneStart members).get? name = members.get? name := by
  unfold withOneStart
  split_ifs
  · exact Json.Members.get?_filter (p := fun other ↦ other ≠ "start_scene") (by simpa using hne)
  · rfl

theorem ne_start_scene_of_mem (hfirst : (members.get? "startScene").isSome)
    (hm : m ∈ withOneStart members) : m.1 ≠ "start_scene" := by
  rw [withOneStart, if_pos hfirst] at hm
  simpa using (List.mem_filter.mp hm).2

theorem ne_startScene_of_mem (hfirst : ¬(members.get? "startScene").isSome)
    (hm : m ∈ withOneStart members) : m.1 ≠ "startScene" := by
  intro hname
  exact hfirst (Json.Members.isSome_get?_iff.mpr ⟨m.2, hname ▸ withOneStart_sublist.subset hm⟩)

theorem fieldName_eq_startScene_iff (hm : m ∈ withOneStart members) :
    fieldName m.1 = "startScene" ↔ m.1 = startSceneName members := by
  unfold startSceneName
  split_ifs with hfirst
  · rw [fieldName, if_neg (ne_start_scene_of_mem hfirst hm)]
  · have hne := ne_startScene_of_mem hfirst hm
    unfold fieldName
    split_ifs with hsecond <;> simp [hsecond, hne]

theorem eq_of_fieldName_eq (hm : m ∈ withOneStart members) (hm' : m' ∈ withOneStart members)
    (heq : fieldName m.1 = fieldName m'.1) : m.1 = m'.1 := by
  by_cases hstart : fieldName m.1 = "startScene"
  · rw [(fieldName_eq_startScene_iff hm).mp hstart,
      (fieldName_eq_startScene_iff hm').mp (heq ▸ hstart)]
  · have hstart' : fieldName m'.1 ≠ "startScene" := heq ▸ hstart
    rwa [fieldName_of_ne hstart, fieldName_of_ne hstart'] at heq

theorem get?_renamed (hne : name ≠ "startScene") (hne' : name ≠ "start_scene") :
    (renamed (withOneStart members)).get? name = members.get? name :=
  (Json.Members.get?_rename fun _ _ ↦ fieldName_eq_iff hne hne').trans (get?_withOneStart hne')

theorem get?_renamed_startScene : (renamed (withOneStart members)).get? "startScene" =
    members.get? (startSceneName members) := by
  refine (Json.Members.get?_rename fun m hm ↦ fieldName_eq_startScene_iff hm).trans ?_
  unfold startSceneName
  split_ifs with hfirst
  · exact get?_withOneStart (by decide)
  · rw [withOneStart, if_neg hfirst]

theorem distinct_renamed (h : Distinct (.object members)) :
    Distinct (.object (renamed (withOneStart members))) := by
  have hnames : ((withOneStart members).map Prod.fst).Nodup :=
    h.names.sublist (withOneStart_sublist.map Prod.fst)
  refine .object _ ?_ ?_
  · have hfields : (renamed (withOneStart members)).map Prod.fst =
        ((withOneStart members).map Prod.fst).map fieldName := by
      simp [renamed, Function.comp_def]
    rw [hfields]
    refine hnames.map_on ?_
    simp only [List.forall_mem_map]
    exact fun m hm m' hm' ↦ eq_of_fieldName_eq hm hm'
  · simp only [renamed, List.forall_mem_map]
    exact fun m hm ↦ h.of_mem (withOneStart_sublist.subset hm)

theorem accepted_eq (h : Distinct (.object members)) :
    accepted (withOneStart members) = .ok (ofMembers members) := by
  have hrenamed := distinct_renamed h
  refine (recordAccepted_eq (fun members members' hget ↦ ?_) hrenamed.names).trans ?_
  · rw [fieldNames] at hget
    simp [sectionAccepted, sectionAt, entriesAccepted, entriesAt, textAt, referenceAt, hget]
  · rw [sectionAccepted_eq hrenamed Cover.accepted_eq,
      entriesAccepted_eq hrenamed Scene.accepted_eq, sectionAccepted_eq hrenamed Ending.accepted_eq]
    simp [ofMembers, sectionAt, entriesAt, textAt, referenceAt, get?_renamed,
      get?_renamed_startScene]

theorem ofJsonAccepted_eq (h : value.Distinct) : ofJsonAccepted value = .ok (ofJson? value) := by
  cases hmembers : value.members? with
  | none => simp [ofJsonAccepted, ofJson?, hmembers]
  | some members =>
    rw [Json.members?_eq_some_iff.mp hmembers] at h
    simp only [ofJsonAccepted, ofJson?, hmembers, accepted_eq h]
    rfl

-- A name that is repeated is refused.
example : ofJsonAccepted (.object [("cover", .null), ("title", .null), ("cover", .object [])]) =
    .error "duplicate field `cover`" := by
  rfl

end StoryGraph.Draft
