import StoryGraph.Command.Run
import StoryGraph.Proofs.Blocks
import StoryGraph.Proofs.Restoring

namespace StoryGraph

open Yaml (IsName Writable)

namespace Yaml

variable {name : String} {value : Json} {members : List (String × Json)}

theorem writable_object_nil : Writable (.object []) := .object nofun nofun

theorem writable_object_cons : Writable (.object ((name, value) :: members)) ↔
    IsName name ∧ Writable value ∧ Writable (.object members) := by
  constructor
  · rintro (_ | _ | _ | _ | _ | ⟨hnames, hvalues⟩)
    obtain ⟨hname, hnames⟩ := List.forall_mem_cons.mp hnames
    obtain ⟨hvalue, hvalues⟩ := List.forall_mem_cons.mp hvalues
    exact ⟨hname, hvalue, .object hnames hvalues⟩
  · rintro ⟨hname, hvalue, _ | _ | _ | _ | _ | ⟨hnames, hvalues⟩⟩
    exact .object (List.forall_mem_cons.mpr ⟨hname, hnames⟩)
      (List.forall_mem_cons.mpr ⟨hvalue, hvalues⟩)

theorem writable_string (s : String) : Writable (.string s) := .string s

theorem writable_ofText? (text : Option String) : Writable (.ofText? text) := by
  cases text with
  | none => exact .null
  | some s => exact .string s

theorem writable_array_map {α : Type} {write : α → Json} {items : List α}
    (h : ∀ a ∈ items, Writable (write a)) : Writable (.array (items.map write)) :=
  .array (List.forall_mem_map.mpr h)

end Yaml

theorem Label.writable_toJson (label : Label) : Writable label.toJson := by
  cases label <;>
    simp only [toJson, Yaml.writable_object_cons, Yaml.writable_object_nil,
      Yaml.writable_string] <;>
    decide

theorem View.writable_toJson (view : View) : Writable view.toJson := by
  have hoptions (options : List String) : Writable (.array (options.map Json.string)) :=
    Yaml.writable_array_map fun option _ ↦ .string option
  cases view <;>
    simp only [toJson, Yaml.writable_object_cons, Yaml.writable_object_nil, Yaml.writable_string,
      Yaml.writable_ofText?, hoptions] <;>
    decide

theorem TraceStep.writable_toJson {step : TraceStep} (h : step.step ≤ Numeric.greatestWord) :
    Writable step.toJson := by
  simp only [toJson, Yaml.writable_object_cons, Yaml.writable_object_nil, Writable.nat h,
    step.label.writable_toJson, step.view.writable_toJson]
  decide

theorem Trace.writable_toJson {trace : Trace}
    (h : ∀ step ∈ trace.steps, step.step ≤ Numeric.greatestWord) : Writable trace.toJson := by
  have hsteps : Writable (.array (trace.steps.map TraceStep.toJson)) :=
    Yaml.writable_array_map fun step hstep ↦ TraceStep.writable_toJson (h step hstep)
  exact Yaml.writable_object_cons.mpr ⟨by decide, hsteps, Yaml.writable_object_nil⟩

namespace TraceEnvelope

/-- The envelope that a value is, with just these four fields. -/
def ofJson? : Json → Option TraceEnvelope
  | .object [("trace_format_version", version), ("script_schema_version", schemaVersion),
      ("graph_fingerprint", fingerprint), ("trace", trace)] => do
    return ⟨← version.nat?, ← schemaVersion.string?, ← fingerprint.string?, ← Trace.ofJson? trace⟩
  | _ => none

def read? (text : String) : Option TraceEnvelope := (Yaml.read? text).bind ofJson?

theorem ofJson?_toJson (envelope : TraceEnvelope) : ofJson? envelope.toJson = some envelope := by
  simp [toJson, ofJson?, Trace.ofJson?_toJson]

/-- An envelope is read back from its YAML. -/
theorem read?_print {envelope : TraceEnvelope} (hversion : envelope.version ≤ Numeric.greatestWord)
    (hsteps : ∀ step ∈ envelope.trace.steps, step.step ≤ Numeric.greatestWord) :
    read? (Yaml.print envelope.toJson) = some envelope := by
  have hwritable : Writable envelope.toJson := by
    simp only [toJson, Yaml.writable_object_cons, Yaml.writable_object_nil, Yaml.writable_string,
      Writable.nat hversion, Trace.writable_toJson hsteps]
    decide
  rw [read?, toJson, Yaml.read?_print hwritable]
  exact ofJson?_toJson envelope

end TraceEnvelope

theorem Player.step_lt_of_mem_walk {graph : Graph} {start fuel : Nat} {player : Player}
    {step : TraceStep} (h : step ∈ player.walk graph start fuel) : step.step < start + fuel := by
  induction fuel generalizing start player with
  | zero => cases h
  | succ fuel ih =>
    rw [walk] at h
    split at h
    · cases h
    · rcases List.mem_cons.mp h with rfl | hnext
      · simp
      · split at hnext
        · have := ih hnext
          omega
        · cases hnext

namespace Command

/-- The text of a trace says the version of its form, the version of the drafts, the fingerprint of
the graph and what is seen in so many steps, and nothing else. -/
theorem read?_traceDocument (graph : Graph) {steps : Nat} (h : steps ≤ Numeric.greatestWord) :
    TraceEnvelope.read? (traceDocument graph steps) =
      some ⟨1, Draft.currentVersion, graph.fingerprint, graph.trace steps⟩ := by
  have hversion : traceVersion ≤ Numeric.greatestWord := by decide
  refine TraceEnvelope.read?_print hversion ?_
  intro step hstep
  have hlt : step.step < 0 + steps := Player.step_lt_of_mem_walk hstep
  omega

end Command

end StoryGraph
