import StoryGraph.Proofs.Restoring
import StoryGraph.Settings.Codec

namespace StoryGraph

open Json (Form Members Readable AllReadable Restores)

namespace Json

/-- The removed paths that go through a name, counted from what stands under it. -/
def under (name : String) (removed : List String → Bool) (path : List String) : Bool :=
  removed (name :: path)

mutual

/-- A value without the members at the removed paths. A path is the names from the outermost object
to the member, and the items of a list have none. -/
def without (removed : List String → Bool) : Json → Json
  | null => null
  | bool b => bool b
  | number n => number n
  | string s => string s
  | array items => array items
  | object members => object (withoutMembers removed members)
termination_by structural value => value

def withoutMember (removed : List String → Bool) : String × Json → String × Json
  | (name, value) => (name, without (under name removed) value)
termination_by structural member => member

def withoutMembers (removed : List String → Bool) : List (String × Json) → List (String × Json)
  | [] => []
  | member :: members =>
    if removed [member.1] then withoutMembers removed members
    else withoutMember removed member :: withoutMembers removed members
termination_by structural members => members

end

variable {α : Type} {members : Members} {name : String} {value : Json} {decode : Json → Option α}
  {a : α} {depth : Nat} {form : Form} {removed : List String → Bool}

@[simp]
theorem without_nat (removed : List String → Bool) (n : Nat) :
    (nat n).without removed = nat n := rfl

@[simp]
theorem without_string (removed : List String → Bool) (s : String) :
    (string s).without removed = string s := rfl

theorem withoutMembers_eq_map (removed : List String → Bool) (members : Members) :
    withoutMembers removed members =
      (members.filter fun member ↦ !removed [member.1]).map (withoutMember removed) := by
  induction members with
  | nil => rfl
  | cons member members ih =>
    rw [withoutMembers, ih, List.filter_cons]
    cases removed [member.1] <;> rfl

theorem Members.all_withoutMembers (removed : List String → Bool) (members : Members)
    (name : String) :
    all (withoutMembers removed members) name =
      if removed [name] then [] else (members.all name).map (without (under name removed)) := by
  induction members with
  | nil => simp [withoutMembers]
  | cons member members ih =>
    obtain ⟨other, value⟩ := member
    by_cases hname : other = name
    · subst hname
      cases hremoved : removed [other] <;>
        simp [withoutMembers, withoutMember, hremoved, all_cons_self, ih]
    · rw [all_cons_of_ne hname, ← ih, withoutMembers]
      split
      · rfl
      · exact all_cons_of_ne hname

@[simp]
theorem Members.fieldD_withoutMembers_cons_of_ne {name' : String} {standing : α}
    (h : name' ≠ name) :
    fieldD (withoutMembers removed ((name', value) :: members)) name decode standing =
      fieldD (withoutMembers removed members) name decode standing := by
  rw [fieldD, fieldD, all_withoutMembers, all_withoutMembers, all_cons_of_ne h]

@[simp]
theorem Members.fieldD_withoutMembers_cons_self {standing : α} (h : members.all name = []) :
    fieldD (withoutMembers removed ((name, value) :: members)) name decode standing =
      if removed [name] then some standing else decode (value.without (under name removed)) := by
  rw [fieldD, all_withoutMembers, all_cons_self, h]
  cases removed [name] <;> rfl

theorem readable_without : ∀ {depth : Nat} {form : Form} {value : Json}
    (removed : List String → Bool), Readable depth form value →
      Readable depth form (value.without removed)
  | _, _, .null, _, _ | _, _, .bool _, _, _ | _, _, .string _, _, _ => by
    unfold without Readable
    trivial
  | _, _, .number _, _, h | _ + 1, _, .array _, _, h => h
  | depth + 1, form, .object members, removed, h => by
    rw [without, readable_object, withoutMembers_eq_map]
    intro member hmember
    obtain ⟨⟨name, value⟩, hkept, rfl⟩ := List.mem_map.mp hmember
    obtain ⟨field, hfield, hvalue⟩ := h _ (List.mem_of_mem_filter hkept)
    exact ⟨field, hfield, readable_without _ hvalue⟩

end Json

variable {depth : Nat}

section

variable (removed : List String → Bool)

def Limits.resetAt (limits : Limits) : Limits :=
  let standing : Limits := {}
  { maxScriptBytes :=
      if removed ["max_script_bytes"] then standing.maxScriptBytes else limits.maxScriptBytes
    maxScenes := if removed ["max_scenes"] then standing.maxScenes else limits.maxScenes
    maxLinesPerScene :=
      if removed ["max_lines_per_scene"] then standing.maxLinesPerScene
      else limits.maxLinesPerScene
    maxChoicesPerScene :=
      if removed ["max_choices_per_scene"] then standing.maxChoicesPerScene
      else limits.maxChoicesPerScene
    maxTextLength :=
      if removed ["max_text_length"] then standing.maxTextLength else limits.maxTextLength
    maxIdLength := if removed ["max_id_length"] then standing.maxIdLength else limits.maxIdLength }

def CoverTexts.resetAt (texts : CoverTexts) : CoverTexts :=
  let standing : CoverTexts := {}
  { title := if removed ["title"] then standing.title else texts.title
    subtitle := if removed ["subtitle"] then standing.subtitle else texts.subtitle
    description := if removed ["description"] then standing.description else texts.description
    cta := if removed ["cta"] then standing.cta else texts.cta }

def EndingTexts.resetAt (texts : EndingTexts) : EndingTexts :=
  let standing : EndingTexts := {}
  { title := if removed ["title"] then standing.title else texts.title
    message := if removed ["message"] then standing.message else texts.message
    cta := if removed ["cta"] then standing.cta else texts.cta }

/-- The settings with their standing values at the removed paths. Where a section is removed, so are
all its keys. -/
def Settings.resetAt (settings : Settings) : Settings :=
  let standing : Settings := {}
  { cover :=
      if removed ["cover"] then standing.cover
      else settings.cover.resetAt (Json.under "cover" removed)
    ending :=
      if removed ["ending"] then standing.ending
      else settings.ending.resetAt (Json.under "ending" removed)
    continueCaption :=
      if removed ["continue_caption"] then standing.continueCaption else settings.continueCaption
    choiceCaption :=
      if removed ["choice_caption"] then standing.choiceCaption else settings.choiceCaption
    limits :=
      if removed ["limits"] then standing.limits
      else settings.limits.resetAt (Json.under "limits" removed) }

end

theorem Limits.ofJson?_without (removed : List String → Bool) (limits : Limits) :
    ofJson? (limits.toJson.without removed) = some (limits.resetAt removed) := by
  simp [toJson, ofJson?, Json.members?, ofMembers?, Json.without, resetAt, ← apply_ite some]

theorem CoverTexts.ofJson?_without (removed : List String → Bool) (texts : CoverTexts) :
    ofJson? (texts.toJson.without removed) = some (texts.resetAt removed) := by
  simp [toJson, ofJson?, Json.members?, ofMembers?, Json.without, resetAt, ← apply_ite some]

theorem EndingTexts.ofJson?_without (removed : List String → Bool) (texts : EndingTexts) :
    ofJson? (texts.toJson.without removed) = some (texts.resetAt removed) := by
  simp [toJson, ofJson?, Json.members?, ofMembers?, Json.without, resetAt, ← apply_ite some]

theorem Settings.ofJson?_without (removed : List String → Bool) (settings : Settings) :
    ofJson? (settings.toJson.without removed) = some (settings.resetAt removed) := by
  simp [toJson, ofJson?, Json.members?, ofMembers?, Json.without, resetAt, ← apply_ite some,
    CoverTexts.ofJson?_without, EndingTexts.ofJson?_without, Limits.ofJson?_without]

theorem CoverTexts.readable_toJson (texts : CoverTexts) :
    Readable (depth + 1) form texts.toJson := by
  refine Json.readable_record rfl ?_
  simp only [Json.allReadable_whole_cons, Json.allReadable_nil, Json.readable_string, and_self]

theorem EndingTexts.readable_toJson (texts : EndingTexts) :
    Readable (depth + 1) form texts.toJson := by
  refine Json.readable_record rfl ?_
  simp only [Json.allReadable_whole_cons, Json.allReadable_nil, Json.readable_string, and_self]

def Limits.numbers (limits : Limits) : List Nat :=
  [limits.maxScriptBytes, limits.maxScenes, limits.maxLinesPerScene, limits.maxChoicesPerScene,
    limits.maxTextLength, limits.maxIdLength]

theorem Limits.readable_toJson {limits : Limits}
    (h : ∀ n ∈ limits.numbers, n ≤ Numeric.greatestWord) :
    Readable (depth + 1) form limits.toJson := by
  have hnat : ∀ n ∈ limits.numbers, Readable depth .whole (.nat n) :=
    fun n hn ↦ Json.readable_nat (h n hn)
  simp only [numbers, List.forall_mem_cons] at hnat
  refine Json.readable_record rfl ?_
  simp only [Json.allReadable_whole_cons, Json.allReadable_nil, hnat, and_self]

theorem Settings.readable_toJson {settings : Settings}
    (h : ∀ n ∈ settings.limits.numbers, n ≤ Numeric.greatestWord) :
    Readable (depth + 2) form settings.toJson := by
  refine (Json.allReadable_cons rfl).mpr ⟨settings.cover.readable_toJson, ?_⟩
  refine (Json.allReadable_cons rfl).mpr ⟨settings.ending.readable_toJson, ?_⟩
  refine (Json.allReadable_cons rfl).mpr ⟨Json.readable_string, ?_⟩
  refine (Json.allReadable_cons rfl).mpr ⟨Json.readable_string, ?_⟩
  exact (Json.allReadable_cons rfl).mpr ⟨Limits.readable_toJson h, Json.allReadable_nil⟩

theorem Settings.restores_without {settings : Settings}
    (h : ∀ n ∈ settings.limits.numbers, n ≤ Numeric.greatestWord) (removed : List String → Bool) :
    Restores form ofJson? (settings.toJson.without removed) (settings.resetAt removed) :=
  .of_readable (settings.ofJson?_without removed)
    (Json.readable_without removed (readable_toJson h))

/-- Reports, traces, lists of edges, scenes and settings are restored from their JSON. Settings
whose JSON has lost the keys at any paths are restored with their standing values at those paths. -/
theorem restores_written :
    (∀ report : Report, (∀ n ∈ report.numbers, n ≤ Numeric.greatestWord) →
      Restores Report.form Report.ofJson? report.toJson report) ∧
    (∀ trace : Trace, (∀ step ∈ trace.steps, step.step ≤ Numeric.greatestWord) →
      Restores Trace.form Trace.ofJson? trace.toJson trace) ∧
    (∀ edges : List Edge,
      (∀ edge ∈ edges, ∀ n ∈ edge.kind.numbers, n ≤ Numeric.greatestWord) →
        Restores (.list Edge.form) (Json.list? Edge.ofJson?) (.array (edges.map Edge.toJson))
          edges) ∧
    (∀ scene : Script.Scene,
      Restores Script.Scene.form Script.Scene.ofJson? scene.toJson scene) ∧
    ∀ settings : Settings, (∀ n ∈ settings.limits.numbers, n ≤ Numeric.greatestWord) →
      Restores Settings.form Settings.ofJson? settings.toJson settings ∧
      ∀ removed : List String → Bool,
        Restores Settings.form Settings.ofJson? (settings.toJson.without removed)
          (settings.resetAt removed) := by
  refine ⟨fun _ ↦ Report.restores, fun _ ↦ Trace.restores, fun _ ↦ Edge.restores_list,
    Script.Scene.restores, ?_⟩
  intro settings h
  refine ⟨?_, Settings.restores_without h⟩
  -- Settings that have lost no key are the settings that were written.
  have hnone := Settings.restores_without h fun _ ↦ false
  exact hnone

def fullReport : Report where
  issues := [.versionMismatch "issue", .sceneWithoutId 0xFFFFFFFFFFFFFFFF,
    .duplicateId "\"" [0, 0xFFFFFFFFFFFFFFFF], .duplicateId "" [], .reservedId "cover",
    .unknownStart "\n", .danglingNext "a" "", .danglingChoice "a" 7 "b", .emptyScene "é",
    .unreachableScene "", .tooManyLines "a" 2 1, .tooManyChoices "a" 0xFFFFFFFFFFFFFFFF 0,
    .textTooLong "a" 5 4, .idTooLong "\u0001" 64]

def fullTrace : Trace where
  steps := [⟨0, .cover, .cover "" "\"" "\\" none⟩, ⟨7, .cover, .cover "kind" "" "" (some "")⟩,
    ⟨7, .scene "cover", .line none "é"⟩, ⟨0xFFFFFFFFFFFFFFFF, .scene "", .line (some "") "😀"⟩,
    ⟨1, .scene "a", .menu ["", "null", "\n"]⟩, ⟨2, .scene "a", .menu []⟩,
    ⟨3, .scene "a", .proceed "Go on"⟩, ⟨4, .ending, .ending "" "\u0001" "Back"⟩]

def fullEdges : List Edge :=
  [⟨.cover, .scene "a", .proceed, some ""⟩, ⟨.scene "a", .ending, .afterLastLine, none⟩,
    ⟨.scene "a", .scene "cover", .choice 0xFFFFFFFFFFFFFFFF, some "\""⟩]

def ownSettings : Settings where
  cover := ⟨"é", "\"", "\n", ""⟩
  ending := ⟨"", "m", "c"⟩
  continueCaption := ""
  choiceCaption := "Way"
  limits := ⟨0xFFFFFFFFFFFFFFFF, 0, 1, 2, 3, 4⟩

theorem restores_written_full :
    (∀ n ∈ fullReport.numbers, n ≤ Numeric.greatestWord) ∧
    Restores Report.form Report.ofJson? fullReport.toJson fullReport ∧
    (∀ step ∈ fullTrace.steps, step.step ≤ Numeric.greatestWord) ∧
    Restores Trace.form Trace.ofJson? fullTrace.toJson fullTrace ∧
    (∀ edge ∈ fullEdges, ∀ n ∈ edge.kind.numbers, n ≤ Numeric.greatestWord) ∧
    Restores (.list Edge.form) (Json.list? Edge.ofJson?) (.array (fullEdges.map Edge.toJson))
      fullEdges ∧
    (∀ n ∈ ownSettings.limits.numbers, n ≤ Numeric.greatestWord) ∧
    Settings.ofJson? (ownSettings.toJson.without fun path ↦
        path ∈ [["ending"], ["ending", "cta"], ["cover", "cta"], ["limits", "max_scenes"],
          ["choice_caption"]]) =
      some ⟨⟨"é", "\"", "\n", "Start"⟩, {}, "", "Option",
        ⟨0xFFFFFFFFFFFFFFFF, 512, 1, 2, 3, 4⟩⟩ := by
  obtain ⟨hreport, htrace, hedges, _, hsettings⟩ := restores_written
  have hissues : ∀ n ∈ fullReport.numbers, n ≤ Numeric.greatestWord := by decide
  have hsteps : ∀ step ∈ fullTrace.steps, step.step ≤ Numeric.greatestWord := by decide
  have hkinds : ∀ edge ∈ fullEdges, ∀ n ∈ edge.kind.numbers, n ≤ Numeric.greatestWord := by decide
  have hlimits : ∀ n ∈ ownSettings.limits.numbers, n ≤ Numeric.greatestWord := by decide
  exact ⟨hissues, hreport _ hissues, hsteps, htrace _ hsteps, hkinds, hedges _ hkinds, hlimits,
    ((hsettings ownSettings hlimits).2 _).value⟩

end StoryGraph
