import StoryGraph.Draft.Codec
import StoryGraph.Proofs.Documents

namespace StoryGraph

namespace Json

variable {α : Type} {members members' : Members} {name name' : String} {value : Json}

@[simp]
theorem Members.get?_nil : Members.get? [] name = none := rfl

@[simp]
theorem Members.get?_append :
    Members.get? (members ++ members') name = (members'.get? name).or (members.get? name) := by
  unfold Members.get?
  rw [List.reverse_append, List.find?_append, Option.map_or]

@[simp]
theorem Members.get?_cons :
    Members.get? ((name', value) :: members) name =
      (members.get? name).or (if name' = name then some value else none) := by
  have hhead : Members.get? [(name', value)] name = if name' = name then some value else none := by
    by_cases h : name' = name <;> simp [Members.get?, h]
  rw [← hhead, ← Members.get?_append, List.singleton_append]

@[simp]
theorem Members.get?_map_toList {item : Option α} {write : α → Json} :
    Members.get? (item.map fun a ↦ (name', write a)).toList name =
      if name' = name then item.map write else none := by
  cases item <;> simp

theorem map_entries_array {items : List α} {write : α → Json} {read : Members → α}
    (h : ∀ a, (write a).members?.map read = some a) :
    (array (items.map write)).entries.map read = items := by
  have hread : (fun a ↦ (write a).members?.map read) = some := funext h
  rw [entries, List.filterMap_map, List.map_filterMap]
  exact (congrArg (List.filterMap · items) hread).trans List.filterMap_some

theorem map_members?_map {item : Option α} {write : α → Json} {read : Members → α}
    (h : ∀ a, (write a).members?.map read = some a) :
    ((item.map write).bind members?).map read = item := by
  cases item with
  | none => rfl
  | some a => exact h a

end Json

namespace Draft

open Json (Members Readable AllReadable)

@[simp]
theorem get?_written {name name' : String} {text : Option String} :
    Members.get? (written name' text) name =
      if name' = name then text.map Json.string else none :=
  Json.Members.get?_map_toList

@[simp]
theorem bind_text?_string (text : Option String) :
    (text.map Json.string).bind Json.text? = text := by
  cases text <;> rfl

@[simp]
theorem bind_reference?_string (text : Option String) :
    (text.map Json.string).bind Json.reference? = text := by
  cases text <;> rfl

theorem Cover.ofMembers_toJson (cover : Cover) :
    cover.toJson.members?.map Cover.ofMembers = some cover := by
  simp [toJson, Json.members?, ofMembers, textAt]

theorem Line.ofMembers_toJson (line : Line) :
    line.toJson.members?.map Line.ofMembers = some line := by
  simp [toJson, Json.members?, ofMembers, textAt]

theorem Choice.ofMembers_toJson (choice : Choice) :
    choice.toJson.members?.map Choice.ofMembers = some choice := by
  simp [toJson, Json.members?, ofMembers, textAt, referenceAt]

theorem Scene.ofMembers_toJson (scene : Scene) :
    scene.toJson.members?.map Scene.ofMembers = some scene := by
  simp [toJson, Json.members?, ofMembers, textAt, referenceAt, entriesAt,
    Json.map_entries_array Line.ofMembers_toJson, Json.map_entries_array Choice.ofMembers_toJson]

theorem Ending.ofMembers_toJson (ending : Ending) :
    ending.toJson.members?.map Ending.ofMembers = some ending := by
  simp [toJson, Json.members?, ofMembers, textAt]

variable (draft : Draft)

theorem exists_members : ∃ members : Members, draft.toJson = .object members ∧
    members.get? "script_schema_version" = draft.version.map Json.string ∧
    members.get? "cover" = draft.cover.map Cover.toJson ∧
    members.get? "scenes" = some (.array (draft.scenes.map Scene.toJson)) ∧
    members.get? "ending" = draft.ending.map Ending.toJson ∧
    members.get? "startScene" = draft.startScene.map Json.string ∧
    members.get? "start_scene" = none := by
  refine ⟨_, rfl, ?_, ?_, ?_, ?_, ?_, ?_⟩ <;> simp

theorem ofJson?_toJson : ofJson? draft.toJson = some draft := by
  obtain ⟨members, hmembers, hversion, hcover, hscenes, hending, hstart, hstart'⟩ :=
    draft.exists_members
  have hstartScene : referenceAt members (startSceneName members) = draft.startScene := by
    cases hdeclared : draft.startScene <;>
      simp [referenceAt, startSceneName, hstart, hstart', hdeclared, Json.reference?]
  simp [ofJson?, hmembers, Json.members?, ofMembers, hstartScene, textAt, sectionAt, entriesAt,
    hversion, hcover, hscenes, hending, Json.map_entries_array Scene.ofMembers_toJson,
    Json.map_members?_map Cover.ofMembers_toJson, Json.map_members?_map Ending.ofMembers_toJson]

section Readable

variable {depth : Nat}

theorem allReadable_written {name : String} {text : Option String} :
    AllReadable depth .whole (written name text) :=
  Json.allReadable_map_toList rfl fun _ ↦ Json.readable_string

theorem Cover.readable_toJson (cover : Cover) : Readable (depth + 1) .whole cover.toJson := by
  simp only [toJson, Json.readable_object, Json.allReadable_append, allReadable_written, and_self]

theorem Line.readable_toJson (line : Line) : Readable (depth + 1) .whole line.toJson := by
  simp only [toJson, Json.readable_object, Json.allReadable_append, allReadable_written, and_self]

theorem Choice.readable_toJson (choice : Choice) : Readable (depth + 1) .whole choice.toJson := by
  simp only [toJson, Json.readable_object, Json.allReadable_append, allReadable_written, and_self]

theorem Ending.readable_toJson (ending : Ending) : Readable (depth + 1) .whole ending.toJson := by
  simp only [toJson, Json.readable_object, Json.allReadable_append, allReadable_written, and_self]

theorem Scene.readable_toJson (scene : Scene) : Readable (depth + 3) .whole scene.toJson := by
  have hdialogue : Readable (depth + 2) .whole (.array (scene.dialogue.map Line.toJson)) :=
    Json.readable_array_map fun line _ ↦ line.readable_toJson
  have hchoices : Readable (depth + 2) .whole (.array (scene.choices.map Choice.toJson)) :=
    Json.readable_array_map fun choice _ ↦ choice.readable_toJson
  simp only [toJson, Json.readable_object, Json.allReadable_append, Json.allReadable_whole_cons,
    Json.allReadable_nil, allReadable_written, hdialogue, hchoices, and_self]

theorem readable_toJson : Readable (depth + 5) .whole draft.toJson := by
  have hscenes : Readable (depth + 4) .whole (.array (draft.scenes.map Scene.toJson)) :=
    Json.readable_array_map fun scene _ ↦ scene.readable_toJson
  have hcover : AllReadable (depth + 4) .whole
      (draft.cover.map fun cover ↦ ("cover", cover.toJson)).toList :=
    Json.allReadable_map_toList rfl Cover.readable_toJson
  have hending : AllReadable (depth + 4) .whole
      (draft.ending.map fun ending ↦ ("ending", ending.toJson)).toList :=
    Json.allReadable_map_toList rfl Ending.readable_toJson
  simp only [toJson, Json.readable_object, Json.allReadable_append, Json.allReadable_whole_cons,
    Json.allReadable_nil, allReadable_written, hcover, hscenes, hending, and_self]

end Readable

theorem parse_text : Json.parse draft.text = .ok draft.toJson :=
  Json.parseAs_pretty draft.readable_toJson

/-- A document has more bytes than scenes, so budgets that its bytes keep are kept by its scenes. -/
theorem length_scenes_le_text : draft.scenes.length ≤ draft.text.utf8ByteSize := by
  have hmem : ("scenes", Json.array (draft.scenes.map Scene.toJson)) ∈
      written "script_schema_version" draft.version ++
        (draft.cover.map fun cover ↦ ("cover", cover.toJson)).toList ++
        [("scenes", .array (draft.scenes.map Scene.toJson))] ++
        (draft.ending.map fun ending ↦ ("ending", ending.toJson)).toList ++
        written "startScene" draft.startScene := by simp
  calc draft.scenes.length
    _ = (draft.scenes.map Scene.toJson).length := (List.length_map _).symm
    _ ≤ (Json.write .indented 1 (.array (draft.scenes.map Scene.toJson))).length :=
      Json.length_le_length_write_array .indented 1 _
    _ ≤ (Json.write .indented 0 draft.toJson).length :=
      Json.length_write_le_of_mem .indented 0 hmem
    _ ≤ draft.text.utf8ByteSize := Json.length_le_utf8ByteSize_ofList _

theorem read_text_of_le {limits : Limits}
    (hbytes : draft.text.utf8ByteSize ≤ limits.maxScriptBytes)
    (hscenes : draft.scenes.length ≤ limits.maxScenes) :
    read limits draft.text = .ok (some draft) := by
  rw [read, if_neg (Nat.not_lt.mpr hbytes), parse_text]
  simp only [ofJson?_toJson, if_neg (Nat.not_lt.mpr hscenes)]

/-- A draft whose text can be held in memory is read back from it without budgets. So a document
that was read says the same when it is written again. -/
theorem read_text (h : draft.text.utf8ByteSize ≤ Limits.greatest) :
    read .unbounded draft.text = .ok (some draft) ∧
      ∀ limits source, read limits source = .ok (some draft) →
        read .unbounded draft.text = read limits source := by
  have hscenes : draft.scenes.length ≤ Limits.unbounded.maxScenes :=
    draft.length_scenes_le_text.trans h
  have hread : read .unbounded draft.text = .ok (some draft) := draft.read_text_of_le h hscenes
  refine ⟨hread, ?_⟩
  intro limits source hsource
  rw [hread, hsource]

def quotedDraft : Draft where
  version := some ""
  cover := some ⟨none, none, some "\"The \\ End\"", none, some "\n\t\u0001", none⟩
  scenes := [⟨none, none, none, [], [], none⟩,
    ⟨some "0", none, some "é", [⟨none, none⟩, ⟨some "", some "\u2028😀"⟩], [⟨none, some "0"⟩], none⟩,
    ⟨none, none, none, [], [], none⟩]
  ending := some ⟨none, none, none, none⟩
  startScene := some "0"

theorem read_text_quotedDraft :
    quotedDraft.text.utf8ByteSize ≤ Limits.greatest ∧
      read .unbounded quotedDraft.text = .ok (some quotedDraft) := by
  have hbytes : quotedDraft.text.utf8ByteSize ≤ Limits.greatest := by
    rw [text, Json.pretty, String.utf8ByteSize_ofList]
    decide +kernel
  exact ⟨hbytes, (read_text quotedDraft hbytes).1⟩

end Draft

end StoryGraph
