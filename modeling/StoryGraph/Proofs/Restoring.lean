import StoryGraph.Lint.Codec
import StoryGraph.Play.Codec
import StoryGraph.Proofs.GraphText
import StoryGraph.Script.Codec

namespace StoryGraph

namespace Json

variable {α : Type} {form : Form} {decode : Json → Option α} {written : Json} {a : α}

/-- What was written is decoded, as a value and from its text in either layout. -/
structure Restores (form : Form) (decode : Json → Option α) (written : Json) (a : α) : Prop where
  value : decode written = some a
  compact : (parseAs form written.compact).toOption.bind decode = some a
  pretty : (parseAs form written.pretty).toOption.bind decode = some a

theorem Restores.of_readable (hdecode : decode written = some a)
    (h : Readable maxDepth form written) : Restores form decode written a where
  value := hdecode
  compact := by
    rw [parseAs_compact h]
    exact hdecode
  pretty := by
    rw [parseAs_pretty h]
    exact hdecode

end Json

open Json (Form Members Readable AllReadable Restores)

variable {depth : Nat}

namespace Issue

def numbers : Issue → List Nat
  | sceneWithoutId position => [position]
  | duplicateId _ positions => positions
  | danglingChoice _ choice _ => [choice]
  | tooManyLines _ count limit | tooManyChoices _ count limit => [count, limit]
  | textTooLong _ length limit => [length, limit]
  | idTooLong _ limit => [limit]
  | versionMismatch _ | reservedId _ | unknownStart _ | danglingNext .. | emptyScene _
  | unreachableScene _ => []

theorem ofJson?_toJson (issue : Issue) : ofJson? issue.toJson = some issue := by
  cases issue <;>
    simp [toJson, toJson.tagged, ofJson?, Json.members?, ofMembers?,
      Json.list?_array_map Json.nat?_nat]

theorem readable_toJson {issue : Issue} (h : ∀ n ∈ issue.numbers, n ≤ Numeric.greatestWord) :
    Readable (depth + 2) .whole issue.toJson := by
  have hnat : ∀ n ∈ issue.numbers, Readable (depth + 1) .whole (.nat n) :=
    fun n hn ↦ Json.readable_nat (h n hn)
  cases issue with
  | duplicateId id positions =>
    have hpositions : Readable (depth + 1) .whole (.array (positions.map Json.nat)) :=
      Json.readable_array_map fun n hn ↦ Json.readable_nat (h n hn)
    simp only [toJson, toJson.tagged, Json.readable_object, Json.allReadable_whole_cons,
      Json.allReadable_nil, Json.readable_string, hpositions, and_self]
  | _ =>
    simp only [numbers, List.forall_mem_cons] at hnat
    simp only [toJson, toJson.tagged, Json.readable_object, Json.allReadable_whole_cons,
      Json.allReadable_nil, Json.readable_string, hnat, and_self]

end Issue

namespace Report

def numbers (report : Report) : List Nat := report.issues.flatMap Issue.numbers

theorem ofJson?_toJson (report : Report) : ofJson? report.toJson = some report := by
  simp [toJson, ofJson?, Json.members?, ofMembers?, Json.list?_array_map Issue.ofJson?_toJson]

theorem readable_toJson {report : Report} (h : ∀ n ∈ report.numbers, n ≤ Numeric.greatestWord) :
    Readable (depth + 4) form report.toJson := by
  have hissues : Readable (depth + 3) .whole (.array (report.issues.map Issue.toJson)) :=
    Json.readable_array_map fun issue hissue ↦
      Issue.readable_toJson fun n hn ↦ h n (List.mem_flatMap_of_mem hissue hn)
  exact Json.readable_record rfl (Json.allReadable_whole_cons.mpr ⟨hissues, Json.allReadable_nil⟩)

theorem restores {report : Report} (h : ∀ n ∈ report.numbers, n ≤ Numeric.greatestWord) :
    Restores form ofJson? report.toJson report :=
  .of_readable report.ofJson?_toJson (readable_toJson h)

end Report

namespace View

theorem ofJson?_toJson (view : View) : ofJson? view.toJson = some view := by
  cases view <;>
    simp [toJson, ofJson?, Json.members?, ofMembers?, Json.list?_array_map Json.string?_string]

theorem readable_toJson (view : View) : Readable (depth + 2) .whole view.toJson := by
  have hoptions : ∀ options : List String,
      Readable (depth + 1) .whole (.array (options.map Json.string)) :=
    fun _ ↦ Json.readable_array_map fun _ _ ↦ Json.readable_string
  cases view <;>
    simp only [toJson, Json.readable_object, Json.allReadable_whole_cons, Json.allReadable_nil,
      Json.readable_ofText?, Json.readable_string, hoptions, and_self]

end View

namespace TraceStep

theorem ofJson?_toJson (step : TraceStep) : ofJson? step.toJson = some step := by
  simp [toJson, ofJson?, Json.members?, ofMembers?, View.ofJson?_toJson]

theorem readable_toJson {step : TraceStep} (h : step.step ≤ Numeric.greatestWord) :
    Readable (depth + 3) form step.toJson := by
  refine (Json.allReadable_cons rfl).mpr ⟨Json.readable_nat h, ?_⟩
  refine (Json.allReadable_cons rfl).mpr ⟨step.label.readable_toJson rfl rfl, ?_⟩
  exact (Json.allReadable_cons rfl).mpr ⟨step.view.readable_toJson, Json.allReadable_nil⟩

end TraceStep

namespace Trace

theorem ofJson?_toJson (trace : Trace) : ofJson? trace.toJson = some trace := by
  simp [toJson, ofJson?, Json.members?, ofMembers?, Json.list?_array_map TraceStep.ofJson?_toJson]

theorem readable_toJson {trace : Trace}
    (h : ∀ step ∈ trace.steps, step.step ≤ Numeric.greatestWord) :
    Readable (depth + 5) form trace.toJson := by
  have hsteps : Readable (depth + 4) (.list TraceStep.form)
      (.array (trace.steps.map TraceStep.toJson)) :=
    Json.readable_array_map fun step hstep ↦ TraceStep.readable_toJson (h step hstep)
  exact (Json.allReadable_cons rfl).mpr ⟨hsteps, Json.allReadable_nil⟩

theorem restores {trace : Trace} (h : ∀ step ∈ trace.steps, step.step ≤ Numeric.greatestWord) :
    Restores form ofJson? trace.toJson trace :=
  .of_readable trace.ofJson?_toJson (readable_toJson h)

end Trace

namespace EdgeKind

def numbers : EdgeKind → List Nat
  | choice index => [index]
  | afterLastLine | proceed => []

theorem ofJson?_toJson (kind : EdgeKind) : ofJson? kind.toJson = some kind := by
  cases kind <;> simp [toJson, ofJson?, Json.members?, Json.tag?]

theorem readable_toJson {kind : EdgeKind} (h : ∀ n ∈ kind.numbers, n ≤ Numeric.greatestWord) :
    Readable (depth + 2) form kind.toJson := by
  cases kind with
  | afterLastLine => exact Json.readable_string
  | proceed => exact Json.readable_string
  | choice index =>
    have hnat : Readable depth .whole (.nat index) :=
      Json.readable_nat (h index List.mem_cons_self)
    have hindex : Readable (depth + 1) (.record ["index"]) (.object [("index", .nat index)]) :=
      Json.readable_record rfl (Json.allReadable_whole_cons.mpr ⟨hnat, Json.allReadable_nil⟩)
    exact (Json.allReadable_cons rfl).mpr ⟨hindex, Json.allReadable_nil⟩

end EdgeKind

namespace Edge

theorem ofJson?_toJson (edge : Edge) : ofJson? edge.toJson = some edge := by
  simp [toJson, ofJson?, Json.members?, ofMembers?, EdgeKind.ofJson?_toJson]

theorem readable_toJson {edge : Edge} (h : ∀ n ∈ edge.kind.numbers, n ≤ Numeric.greatestWord) :
    Readable (depth + 3) form edge.toJson := by
  refine (Json.allReadable_cons rfl).mpr ⟨edge.source.readable_toJson rfl rfl, ?_⟩
  refine (Json.allReadable_cons rfl).mpr ⟨edge.target.readable_toJson rfl rfl, ?_⟩
  refine (Json.allReadable_cons rfl).mpr ⟨EdgeKind.readable_toJson h, ?_⟩
  exact (Json.allReadable_cons rfl).mpr ⟨Json.readable_ofText?, Json.allReadable_nil⟩

theorem restores_list {edges : List Edge}
    (h : ∀ edge ∈ edges, ∀ n ∈ edge.kind.numbers, n ≤ Numeric.greatestWord) :
    Restores (.list form) (Json.list? ofJson?) (.array (edges.map toJson)) edges :=
  .of_readable (Json.list?_array_map ofJson?_toJson edges)
    (Json.readable_array_map fun edge hedge ↦ readable_toJson (h edge hedge))

end Edge

namespace Script

theorem Choice.ofJson?_toJson (choice : Choice) : ofJson? choice.toJson = some choice := by
  simp [toJson, ofJson?, Json.members?, ofMembers?]

theorem Choice.readable_toJson (choice : Choice) : Readable (depth + 1) form choice.toJson := by
  refine Json.readable_record rfl ?_
  simp only [Json.allReadable_whole_cons, Json.allReadable_nil, Json.readable_string,
    Json.readable_ofText?, and_self]

theorem Scene.ofJson?_toJson (scene : Scene) : ofJson? scene.toJson = some scene := by
  simp [toJson, ofJson?, Json.members?, ofMembers?, Json.list?_array_map Line.ofJson?_toJson,
    Json.list?_array_map Choice.ofJson?_toJson]

theorem Scene.readable_toJson (scene : Scene) : Readable (depth + 3) form scene.toJson := by
  have hlines : Readable (depth + 2) (.list Line.form) (.array (scene.lines.map Line.toJson)) :=
    Json.readable_array_map fun line _ ↦ line.readable_toJson rfl rfl
  have hchoices : Readable (depth + 2) (.list Choice.form)
      (.array (scene.choices.map Choice.toJson)) :=
    Json.readable_array_map fun choice _ ↦ choice.readable_toJson
  refine (Json.allReadable_cons rfl).mpr ⟨Json.readable_string, ?_⟩
  refine (Json.allReadable_cons rfl).mpr ⟨Json.readable_ofText?, ?_⟩
  refine (Json.allReadable_cons rfl).mpr ⟨Json.readable_ofText?, ?_⟩
  refine (Json.allReadable_cons rfl).mpr ⟨hlines, ?_⟩
  refine (Json.allReadable_cons rfl).mpr ⟨hchoices, ?_⟩
  refine (Json.allReadable_cons rfl).mpr ⟨Json.readable_ofText?, ?_⟩
  exact (Json.allReadable_cons rfl).mpr ⟨Json.readable_ofText?, Json.allReadable_nil⟩

theorem Scene.restores (scene : Scene) : Restores form ofJson? scene.toJson scene :=
  .of_readable scene.ofJson?_toJson scene.readable_toJson

end Script

end StoryGraph
