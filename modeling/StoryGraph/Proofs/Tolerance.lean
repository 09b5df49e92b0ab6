import Mathlib.Data.List.Forall2
import Mathlib.Tactic.MkIffOfInductiveProp
import StoryGraph.Proofs.Acceptance

namespace StoryGraph

namespace Json

variable {value : Json} {s : String}

theorem text?_eq_some_iff :
    value.text? = some s ↔ value = .string s ∨ ∃ n : Number, value = .number n ∧ n.text = s := by
  cases value <;> simp [text?]

theorem reference?_eq_some_iff :
    value.reference? = some s ↔
      value = .string s ∨ ∃ n : Number, value = .number n ∧ n.value ≠ 0 ∧ n.text = s := by
  cases value with
  | number n => simp [reference?, ← Number.isZero_iff]
  | _ => simp [reference?]

end Json

namespace Draft

open Json (Members Distinct)

variable {α : Type} {members inner : Members} {name : String} {value : Json}

section Under

variable (members : Members) (name : String)

def TextUnder (text : Option String) : Prop :=
  ∀ s, text = some s ↔
    (name, .string s) ∈ members ∨ ∃ n : Json.Number, (name, .number n) ∈ members ∧ n.text = s

/-- The reference is the string or the digits of the number that stands there, but a number equal to
zero is no reference. -/
def ReferenceUnder (reference : Option String) : Prop :=
  ∀ s, reference = some s ↔ (name, .string s) ∈ members ∨
    ∃ n : Json.Number, (name, .number n) ∈ members ∧ n.value ≠ 0 ∧ n.text = s

/-- One entry for each object of the list that stands there, in order. -/
def EntriesUnder (Reads : Members → α → Prop) (entries : List α) : Prop :=
  (∀ items, (name, .array items) ∈ members →
    List.Forall₂ Reads (items.filterMap Json.members?) entries) ∧
  ((∀ items, (name, .array items) ∉ members) → entries = [])

def SectionUnder (Reads : Members → α → Prop) (part : Option α) : Prop :=
  (∀ inner, (name, .object inner) ∈ members → ∃ a, part = some a ∧ Reads inner a) ∧
  ((∀ inner, (name, .object inner) ∉ members) → part = none)

end Under

@[mk_iff]
structure Cover.ReadFrom (members : Members) (cover : Cover) : Prop where
  image : TextUnder members "image" cover.image
  background : TextUnder members "background" cover.background
  title : TextUnder members "title" cover.title
  subtitle : TextUnder members "subtitle" cover.subtitle
  description : TextUnder members "description" cover.description
  cta : TextUnder members "cta" cover.cta

@[mk_iff]
structure Line.ReadFrom (members : Members) (line : Line) : Prop where
  speaker : TextUnder members "speaker" line.speaker
  text : TextUnder members "text" line.text

@[mk_iff]
structure Choice.ReadFrom (members : Members) (choice : Choice) : Prop where
  label : TextUnder members "label" choice.label
  next : ReferenceUnder members "next" choice.next

@[mk_iff]
structure Scene.ReadFrom (members : Members) (scene : Scene) : Prop where
  id : ReferenceUnder members "id" scene.id
  background : TextUnder members "background" scene.background
  accent : TextUnder members "accent" scene.accent
  dialogue : EntriesUnder members "dialogue" Line.ReadFrom scene.dialogue
  choices : EntriesUnder members "choices" Choice.ReadFrom scene.choices
  next : ReferenceUnder members "next" scene.next

@[mk_iff]
structure Ending.ReadFrom (members : Members) (ending : Ending) : Prop where
  image : TextUnder members "image" ending.image
  title : TextUnder members "title" ending.title
  message : TextUnder members "message" ending.message
  cta : TextUnder members "cta" ending.cta

/-- Every field of a draft comes from what stands under its name. The start scene comes from its
second name only where nothing at all stands under the first. -/
@[mk_iff]
structure ReadFrom (members : Members) (draft : Draft) : Prop where
  version : TextUnder members "script_schema_version" draft.version
  cover : SectionUnder members "cover" Cover.ReadFrom draft.cover
  scenes : EntriesUnder members "scenes" Scene.ReadFrom draft.scenes
  ending : SectionUnder members "ending" Ending.ReadFrom draft.ending
  startScene : (∃ value, ("startScene", value) ∈ members) →
    ReferenceUnder members "startScene" draft.startScene
  startSceneElse : (∀ value, ("startScene", value) ∉ members) →
    ReferenceUnder members "start_scene" draft.startScene

theorem exists_under_iff {s : String} {P : Json.Number → Prop} :
    (∃ value, (name, value) ∈ members ∧
        (value = .string s ∨ ∃ n : Json.Number, value = .number n ∧ P n)) ↔
      (name, .string s) ∈ members ∨ ∃ n : Json.Number, (name, .number n) ∈ members ∧ P n := by
  constructor
  · rintro ⟨value, hmem, rfl | ⟨n, rfl, hn⟩⟩
    · exact .inl hmem
    · exact .inr ⟨n, hmem, hn⟩
  · rintro (hmem | ⟨n, hmem, hn⟩)
    · exact ⟨_, hmem, .inl rfl⟩
    · exact ⟨_, hmem, .inr ⟨n, rfl, hn⟩⟩

theorem textUnder_iff (h : Distinct (.object members)) {text : Option String} :
    TextUnder members name text ↔ text = textAt members name := by
  rw [Option.ext_iff]
  refine forall_congr' fun s ↦ iff_congr Iff.rfl ?_
  simp only [textAt, Option.bind_eq_some_iff, Json.Members.get?_eq_some_iff h.names,
    Json.text?_eq_some_iff]
  exact exists_under_iff.symm

theorem referenceUnder_iff (h : Distinct (.object members)) {reference : Option String} :
    ReferenceUnder members name reference ↔ reference = referenceAt members name := by
  rw [Option.ext_iff]
  refine forall_congr' fun s ↦ iff_congr Iff.rfl ?_
  simp only [referenceAt, Option.bind_eq_some_iff, Json.Members.get?_eq_some_iff h.names,
    Json.reference?_eq_some_iff]
  exact exists_under_iff.symm

theorem entriesAt_of_mem (h : Distinct (.object members)) {items : List Json}
    (hmem : (name, .array items) ∈ members) :
    entriesAt members name = items.filterMap Json.members? := by
  rw [entriesAt, (Json.Members.get?_eq_some_iff h.names).mpr hmem]
  rfl

theorem entriesAt_of_forall_not_mem (hnone : ∀ items, (name, Json.array items) ∉ members) :
    entriesAt members name = [] := by
  cases hget : Json.Members.get? members name with
  | none => rw [entriesAt, hget]; rfl
  | some value =>
    have hmem := Json.Members.mem_of_get?_eq_some hget
    rw [entriesAt, hget]
    cases value with
    | array items => exact absurd hmem (hnone items)
    | _ => rfl

theorem sectionAt_eq_some_iff (h : Distinct (.object members)) :
    sectionAt members name = some inner ↔ (name, .object inner) ∈ members := by
  simp only [sectionAt, Option.bind_eq_some_iff, Json.Members.get?_eq_some_iff h.names,
    Json.members?_eq_some_iff, exists_eq_right]

section

variable {Reads : Members → α → Prop} {read : Members → α}

theorem forall₂_iff_eq_map {inners : List Members} {entries : List α}
    (hreads : ∀ inner ∈ inners, ∀ a, Reads inner a ↔ a = read inner) :
    List.Forall₂ Reads inners entries ↔ entries = inners.map read := by
  induction inners generalizing entries with
  | nil => simp
  | cons inner inners ih =>
    obtain ⟨hinner, hinners⟩ := List.forall_mem_cons.mp hreads
    simp [List.forall₂_cons_left_iff, hinner, ih hinners]

theorem entriesUnder_iff (h : Distinct (.object members)) {entries : List α}
    (hreads : ∀ {inner}, Distinct (.object inner) → ∀ {a}, Reads inner a ↔ a = read inner) :
    EntriesUnder members name Reads entries ↔ entries = (entriesAt members name).map read := by
  have hentries : List.Forall₂ Reads (entriesAt members name) entries ↔
      entries = (entriesAt members name).map read :=
    forall₂_iff_eq_map fun inner hinner a ↦ hreads (distinct_of_mem_entriesAt h hinner)
  rw [← hentries]
  by_cases hlist : ∃ items, (name, Json.array items) ∈ members
  · obtain ⟨items, hmem⟩ := hlist
    constructor
    · intro hunder
      rw [entriesAt_of_mem h hmem]
      exact hunder.1 items hmem
    · intro hforall
      refine ⟨fun items' hmem' ↦ ?_, fun hnone ↦ absurd hmem (hnone items)⟩
      rwa [← entriesAt_of_mem h hmem']
  · have hnone : ∀ items, (name, Json.array items) ∉ members := not_exists.mp hlist
    rw [entriesAt_of_forall_not_mem hnone, List.forall₂_nil_left_iff]
    refine ⟨fun hunder ↦ hunder.2 hnone, fun hnil ↦ ⟨fun items hmem ↦ ?_, fun _ ↦ hnil⟩⟩
    exact absurd hmem (hnone items)

theorem sectionUnder_iff (h : Distinct (.object members)) {part : Option α}
    (hreads : ∀ {inner}, Distinct (.object inner) → ∀ {a}, Reads inner a ↔ a = read inner) :
    SectionUnder members name Reads part ↔ part = (sectionAt members name).map read := by
  simp only [SectionUnder, ← sectionAt_eq_some_iff h]
  cases hsection : sectionAt members name with
  | none => simp
  | some inner => simp [hreads (distinct_of_sectionAt h hsection)]

end

theorem Cover.readFrom_iff_eq (h : Distinct (.object members)) {cover : Cover} :
    ReadFrom members cover ↔ cover = ofMembers members := by
  cases cover
  simp [readFrom_iff, textUnder_iff h, ofMembers]

theorem Line.readFrom_iff_eq (h : Distinct (.object members)) {line : Line} :
    ReadFrom members line ↔ line = ofMembers members := by
  cases line
  simp [readFrom_iff, textUnder_iff h, ofMembers]

theorem Choice.readFrom_iff_eq (h : Distinct (.object members)) {choice : Choice} :
    ReadFrom members choice ↔ choice = ofMembers members := by
  cases choice
  simp [readFrom_iff, textUnder_iff h, referenceUnder_iff h, ofMembers]

theorem Scene.readFrom_iff_eq (h : Distinct (.object members)) {scene : Scene} :
    ReadFrom members scene ↔ scene = ofMembers members := by
  cases scene
  simp [readFrom_iff, textUnder_iff h, referenceUnder_iff h,
    entriesUnder_iff h Line.readFrom_iff_eq, entriesUnder_iff h Choice.readFrom_iff_eq, ofMembers]

theorem Ending.readFrom_iff_eq (h : Distinct (.object members)) {ending : Ending} :
    ReadFrom members ending ↔ ending = ofMembers members := by
  cases ending
  simp [readFrom_iff, textUnder_iff h, ofMembers]

theorem startScene_iff {P : String → Prop} :
    ((∃ value, ("startScene", value) ∈ members) → P "startScene") ∧
        ((∀ value, ("startScene", value) ∉ members) → P "start_scene") ↔
      P (startSceneName members) := by
  by_cases hfirst : ∃ value, ("startScene", value) ∈ members
  · rw [startSceneName, if_pos (Json.Members.isSome_get?_iff.mpr hfirst)]
    exact ⟨fun h ↦ h.1 hfirst,
      fun h ↦ ⟨fun _ ↦ h, fun hnone ↦ absurd hfirst (not_exists.mpr hnone)⟩⟩
  · rw [startSceneName, if_neg (mt Json.Members.isSome_get?_iff.mp hfirst)]
    exact ⟨fun h ↦ h.2 (not_exists.mp hfirst), fun h ↦ ⟨fun hsome ↦ absurd hsome hfirst, fun _ ↦ h⟩⟩

theorem readFrom_iff_eq (h : Distinct (.object members)) {draft : Draft} :
    ReadFrom members draft ↔ draft = ofMembers members := by
  have hstart : ((∃ value, ("startScene", value) ∈ members) →
        ReferenceUnder members "startScene" draft.startScene) ∧
      ((∀ value, ("startScene", value) ∉ members) →
        ReferenceUnder members "start_scene" draft.startScene) ↔
      draft.startScene = referenceAt members (startSceneName members) :=
    (startScene_iff (P := fun name ↦ ReferenceUnder members name draft.startScene)).trans
      (referenceUnder_iff h)
  rw [readFrom_iff, hstart]
  cases draft
  simp [textUnder_iff h, entriesUnder_iff h Scene.readFrom_iff_eq,
    sectionUnder_iff h Cover.readFrom_iff_eq, sectionUnder_iff h Ending.readFrom_iff_eq, ofMembers]

section

variable {members' : Members} {read : Members → α} {change : Json → Json}
  {reshape : Members → Members}

theorem map_entriesAt_of_get? (hget : members'.get? name = (members.get? name).map change)
    (hentries : ∀ value, (change value).entries = value.entries.map reshape)
    (hread : ∀ inner, read (reshape inner) = read inner) :
    (entriesAt members' name).map read = (entriesAt members name).map read := by
  rw [entriesAt, entriesAt, hget]
  cases Json.Members.get? members name with
  | none => rfl
  | some value => simp [hentries, hread]

theorem map_sectionAt_of_get? (hget : members'.get? name = (members.get? name).map change)
    (hmembers : ∀ value, (change value).members? = value.members?.map reshape)
    (hread : ∀ inner, read (reshape inner) = read inner) :
    (sectionAt members' name).map read = (sectionAt members name).map read := by
  rw [sectionAt, sectionAt, hget]
  cases Json.Members.get? members name with
  | none => rfl
  | some value => simp [hmembers, Function.comp_def, hread]

end

section

variable {names names' : List String} {change change' : String → Json → Json}
  {read : Members → α}

theorem LooksAt.pruned (h : LooksAt names read) (members : Members) :
    read (Json.Members.pruned names (fun _ value ↦ value) members) = read members := by
  refine h _ _ fun name hname ↦ ?_
  rw [Json.Members.get?_pruned hname, Option.map_id']

theorem map_entriesAt_pruned (hname : name ∈ names)
    (hchange : change name = Json.eachItem (Json.pruned names' change'))
    (hread : ∀ inner, read (Json.Members.pruned names' change' inner) = read inner) :
    (entriesAt (Json.Members.pruned names change members) name).map read =
      (entriesAt members name).map read := by
  apply map_entriesAt_of_get? (Json.Members.get?_pruned hname) _ hread
  rw [hchange]
  exact Json.entries_eachItem_pruned

theorem map_sectionAt_pruned (hname : name ∈ names)
    (hchange : change name = Json.pruned names' change')
    (hread : ∀ inner, read (Json.Members.pruned names' change' inner) = read inner) :
    (sectionAt (Json.Members.pruned names change members) name).map read =
      (sectionAt members name).map read := by
  apply map_sectionAt_of_get? (Json.Members.get?_pruned hname) _ hread
  rw [hchange]
  exact Json.members?_pruned

end

def Scene.prunedField : String → Json → Json
  | "dialogue" => Json.eachItem (Json.pruned Line.names fun _ value ↦ value)
  | "choices" => Json.eachItem (Json.pruned Choice.names fun _ value ↦ value)
  | _ => fun value ↦ value

def prunedField : String → Json → Json
  | "cover" => Json.pruned Cover.names fun _ value ↦ value
  | "scenes" => Json.eachItem (Json.pruned Scene.names Scene.prunedField)
  | "ending" => Json.pruned Ending.names fun _ value ↦ value
  | _ => fun value ↦ value

def Scene.kept (members : Members) : Members := members.pruned names prunedField

def kept (members : Members) : Members := members.pruned fieldNames.flatten prunedField

def pruned : Json → Json := Json.pruned fieldNames.flatten prunedField

theorem Scene.ofMembers_kept (members : Members) :
    ofMembers (kept members) = ofMembers members := by
  have hdialogue : (entriesAt (kept members) "dialogue").map Line.ofMembers =
      (entriesAt members "dialogue").map Line.ofMembers :=
    map_entriesAt_pruned (by decide) rfl Line.looksAt.pruned
  have hchoices : (entriesAt (kept members) "choices").map Choice.ofMembers =
      (entriesAt members "choices").map Choice.ofMembers :=
    map_entriesAt_pruned (by decide) rfl Choice.looksAt.pruned
  simp only [ofMembers, hdialogue, hchoices]
  simp [textAt, referenceAt, kept, Json.Members.get?_pruned, names, prunedField]

theorem referenceAt_kept_startSceneName (members : Members) :
    referenceAt (kept members) (startSceneName (kept members)) =
      referenceAt members (startSceneName members) := by
  have hget : ∀ name ∈ ["startScene", "start_scene"],
      (kept members).get? name = members.get? name := by
    simp [kept, Json.Members.get?_pruned, fieldNames, prunedField]
  unfold startSceneName
  rw [hget _ (by simp)]
  split_ifs <;> rw [referenceAt, referenceAt, hget _ (by simp)]

theorem ofMembers_kept (members : Members) : ofMembers (kept members) = ofMembers members := by
  have hcover : (sectionAt (kept members) "cover").map Cover.ofMembers =
      (sectionAt members "cover").map Cover.ofMembers :=
    map_sectionAt_pruned (by decide) rfl Cover.looksAt.pruned
  have hscenes : (entriesAt (kept members) "scenes").map Scene.ofMembers =
      (entriesAt members "scenes").map Scene.ofMembers :=
    map_entriesAt_pruned (by decide) rfl Scene.ofMembers_kept
  have hending : (sectionAt (kept members) "ending").map Ending.ofMembers =
      (sectionAt members "ending").map Ending.ofMembers :=
    map_sectionAt_pruned (by decide) rfl Ending.looksAt.pruned
  simp only [ofMembers, hcover, hscenes, hending, referenceAt_kept_startSceneName]
  simp [textAt, kept, Json.Members.get?_pruned, fieldNames, prunedField]

theorem ofJson?_pruned (value : Json) : ofJson? (pruned value) = ofJson? value := by
  have hread : ofMembers ∘ kept = ofMembers := funext ofMembers_kept
  rw [ofJson?, ofJson?, pruned, Json.members?_pruned, Option.map_map]
  exact congrArg (Option.map · value.members?) hread

theorem ofJson?_eq_some_iff (h : value.Distinct) {draft : Draft} :
    ofJson? value = some draft ↔
      ∃ members, value = .object members ∧ ReadFrom members draft := by
  rw [ofJson?, Option.map_eq_some_iff]
  refine exists_congr fun members ↦ ?_
  rw [Json.members?_eq_some_iff]
  refine and_congr_right fun hvalue ↦ ?_
  rw [readFrom_iff_eq (hvalue ▸ h)]
  exact eq_comm

theorem ofJson?_eq_none_iff : ofJson? value = none ↔ ∀ members, value ≠ .object members := by
  rw [ofJson?, Option.map_eq_none_iff, Option.eq_none_iff_forall_ne_some]
  exact forall_congr' fun members ↦ not_congr Json.members?_eq_some_iff

/-- Any object is a draft, and nothing else is. The draft has what stands under the names of its
fields, as far as the types fit: the reader that refuses never fails and drops nothing, and members
of other names make no difference, however deep they are. -/
theorem ofJson?_tolerant (value : Json) (h : value.Distinct) :
    ofJsonAccepted value = .ok (ofJson? value) ∧
      (ofJson? value = none ↔ ∀ members, value ≠ .object members) ∧
      (∀ draft, ofJson? value = some draft ↔
        ∃ members, value = .object members ∧ ReadFrom members draft) ∧
      ofJson? (pruned value) = ofJson? value :=
  ⟨ofJsonAccepted_eq h, ofJson?_eq_none_iff, fun _ ↦ ofJson?_eq_some_iff h, ofJson?_pruned value⟩

def strayValue : Json :=
  .object [("cover", .string "none"), ("author", .object [("cover", .bool true)]),
    ("scenes", .array [
      .object [("id", .nat 7), ("dialogue", .string "none"), ("next", .bool false),
        ("choices", .array [.nat 1,
          .object [("note", .null), ("next", .nat 0), ("label", .nat 2)]])],
      .string "none", .array [], .object [("id", .array [])]]),
    ("ending", .object []), ("start_scene", .string "7"), ("startScene", .null)]

theorem ofJson?_tolerant_strayValue :
    strayValue.Distinct ∧
      ofJsonAccepted strayValue = .ok (some ⟨none, none,
        [⟨some "7", none, none, [], [⟨some "2", none⟩], none⟩, ⟨none, none, none, [], [], none⟩],
        some ⟨none, none, none, none⟩, none⟩) := by
  have hdistinct : strayValue.Distinct := by simp [strayValue, Json.nat]
  exact ⟨hdistinct, (ofJson?_tolerant strayValue hdistinct).1⟩

end Draft

end StoryGraph
