import StoryGraph.Proofs.Counts
import StoryGraph.Proofs.GraphText
import StoryGraph.Proofs.Ingestion
import StoryGraph.Proofs.Invoking
import StoryGraph.Proofs.Saving
import StoryGraph.Proofs.TraceText

namespace StoryGraph

theorem Continuation.indices_eq_map (continuation : Continuation) :
    continuation.indices = continuation.branches.map Branch.index := by
  cases continuation <;> rfl

/-- A document has more bytes than any menu in it has choices. -/
theorem Graph.length_branches_le_text {graph : Graph} {node : Node} (h : node ∈ graph.nodes) :
    node.continuation.branches.length ≤ graph.text.utf8ByteSize := by
  cases hcontinuation : node.continuation with
  | menu branches =>
    have hchoices : ("choices", Json.array (branches.map Branch.toJson)) ∈
        [("type", Json.string "menu"), ("choices", .array (branches.map Branch.toJson))] := by simp
    have hnode : ("continuation", node.continuation.toJson) ∈
        [("id", node.label.toJson), ("content", node.content.toJson),
          ("continuation", node.continuation.toJson)] := by simp
    have hnodes : node.toJson ∈ graph.nodes.map Node.toJson := List.mem_map_of_mem h
    have hlabels : ("labels", Json.array (graph.nodes.map Node.toJson)) ∈
        [("labels", .array (graph.nodes.map Node.toJson)),
          ("start", (graph.start.map Label.toJson).getD .null)] := by simp
    have hgraph : ("graph", graph.toJson) ∈
        [("graph_format_version", .nat graph.envelope.version),
          ("fingerprint", .string graph.envelope.fingerprint), ("graph", graph.toJson)] := by simp
    rw [hcontinuation] at hnode
    calc branches.length
      _ = (branches.map Branch.toJson).length := (List.length_map _).symm
      _ ≤ (Json.write .indented 5 (.array (branches.map Branch.toJson))).length :=
        Json.length_le_length_write_array .indented 5 _
      _ ≤ (Json.write .indented 4 (Continuation.menu branches).toJson).length :=
        Json.length_write_le_of_mem .indented 4 hchoices
      _ ≤ (Json.write .indented 3 node.toJson).length := by
        rw [Node.toJson, hcontinuation]
        exact Json.length_write_le_of_mem .indented 3 hnode
      _ ≤ (Json.write .indented 2 (.array (graph.nodes.map Node.toJson))).length :=
        Json.length_write_le_of_mem_items .indented 2 hnodes
      _ ≤ (Json.write .indented 1 graph.toJson).length :=
        Json.length_write_le_of_mem .indented 1 hlabels
      _ ≤ (Json.write .indented 0 graph.envelope.toJson).length :=
        Json.length_write_le_of_mem .indented 0 hgraph
      _ ≤ graph.text.utf8ByteSize := Json.length_le_utf8ByteSize_ofList _
  | _ => exact Nat.zero_le _

/-- Choices are numbered from zero on, so their numbers are less than a document is long. -/
theorem Draft.indexed_compile {settings : Settings} {draft : Draft}
    (h : (draft.compile settings).text.utf8ByteSize ≤ Numeric.greatestWord) :
    (draft.compile settings).Indexed := by
  intro node hnode index hindex
  rw [Continuation.indices_eq_map, Script.map_index_branches hnode, List.mem_range] at hindex
  have hlength := Graph.length_branches_le_text hnode
  omega

end StoryGraph

namespace StoryGraph.Command

inductive LoadsSettings (tree : FileTree) : Option String → Settings → Prop
  | standing : LoadsSettings tree none {}
  | file {path text : String} {settings : Settings} (hread : tree.read path = .ok text)
      (hparse : Settings.parse text = .ok settings) : LoadsSettings tree (some path) settings

/-- The draft in a file, within the budgets of the settings that are asked for. -/
structure LoadsDraft (tree : FileTree) (config : Option String) (script : String)
    (settings : Settings) (draft : Draft) : Prop where
  loaded : LoadsSettings tree config settings
  read : ∃ text, tree.read script = .ok text ∧
    Draft.read settings.limits text = .ok (some draft)

/-- The graph that the library compiles the text of a file to. -/
def Compiles (tree : FileTree) (config : Option String) (script : String) (graph : Graph) : Prop :=
  ∃ settings text, LoadsSettings tree config settings ∧ tree.read script = .ok text ∧
    Draft.compileText settings text = .ok graph

variable {tree : FileTree} {config : Option String} {script : String} {settings : Settings}
  {draft : Draft} {graph : Graph} {task : Task} {request : Request} {args : List String}

theorem compiles_iff : Compiles tree config script graph ↔
    ∃ settings draft, LoadsDraft tree config script settings draft ∧
      draft.compile settings = graph := by
  simp only [Compiles, Draft.compileText_eq_ok_iff]
  constructor
  · rintro ⟨settings, text, hsettings, hread, draft, hdraft, hgraph⟩
    exact ⟨settings, draft, ⟨hsettings, text, hread, hdraft⟩, hgraph⟩
  · rintro ⟨settings, draft, ⟨hsettings, text, hread, hdraft⟩, hgraph⟩
    exact ⟨settings, text, hsettings, hread, draft, hdraft, hgraph⟩

theorem loadSettings_eq_ok_iff :
    loadSettings tree.read config = .ok settings ↔ LoadsSettings tree config settings := by
  constructor
  · intro h
    cases config with
    | none =>
      cases h
      exact .standing
    | some path =>
      rw [loadSettings] at h
      cases hread : tree.read path with
      | error error => simp [hread] at h
      | ok text =>
        cases hparse : Settings.parse text with
        | error error => simp [hread, hparse] at h
        | ok settings' =>
          obtain rfl : settings' = settings := by simpa [hread, hparse] using h
          exact .file hread hparse
  · rintro (_ | ⟨hread, hparse⟩)
    · rfl
    · simp [loadSettings, hread, hparse]

theorem loadDraft_eq_ok_iff : loadDraft tree.read settings script = .ok draft ↔
    ∃ text, tree.read script = .ok text ∧
      Draft.read settings.limits text = .ok (some draft) := by
  rw [loadDraft]
  cases tree.read script with
  | error error => simp
  | ok text =>
    cases hread : Draft.read settings.limits text with
    | error error => simp [hread]
    | ok draft? => cases draft? <;> simp [hread]

def Task.script? : Task → Option String
  | validate script _ | compile script _ | dot script _ | trace script _ _ => some script
  | schema _ => none

def Task.outcome (settings : Settings) (draft : Draft) : Task → Outcome
  | validate script strict => Command.validate settings script strict draft
  | compile _ output =>
    .written output (draft.compile settings).text
      s!"fingerprint={(draft.compile settings).fingerprint}\n"
  | dot _ output => deliver (draft.compile settings).dot output
  | trace _ steps output => .written output (traceDocument (draft.compile settings) steps) ""
  | schema output => deliver Draft.Schema.document.pretty output

theorem run_eq_outcome (hscript : task.script? = some script)
    (h : LoadsDraft tree config script settings draft) :
    run tree.read ⟨config, task⟩ = task.outcome settings draft := by
  have hsettings := loadSettings_eq_ok_iff.mpr h.loaded
  have hdraft := loadDraft_eq_ok_iff.mpr h.read
  cases task <;> cases hscript <;> simp only [run, hsettings, hdraft, Task.outcome]

theorem exists_run_eq_failed (hscript : task.script? = some script)
    (h : ∀ settings draft, ¬ LoadsDraft tree config script settings draft) :
    ∃ failure, run tree.read ⟨config, task⟩ = .failed "" failure := by
  cases hsettings : loadSettings tree.read config with
  | error failure => exact ⟨failure, by simp only [run, hsettings]⟩
  | ok settings =>
    cases hdraft : loadDraft tree.read settings script with
    | error failure =>
      refine ⟨failure, ?_⟩
      cases task <;> cases hscript <;> simp only [run, hsettings, hdraft]
    | ok draft =>
      exact absurd ⟨loadSettings_eq_ok_iff.mp hsettings, loadDraft_eq_ok_iff.mp hdraft⟩
        (h settings draft)

namespace Ending

structure Fails (ending : Ending) (tree : FileTree) : Prop where
  exitCode : ending.exitCode = 1
  output : ending.output = ""
  tree : ending.tree = tree

/-- The text is saved under the name, and the note printed; or the text is printed, where no name is
given. -/
def Delivers (ending : Ending) (tree : FileTree) (text note : String) : Option String → Prop
  | some name => ending.exitCode = 0 ∧ ending.output = note ∧ tree.Saved name text ending.tree
  | none => ending.exitCode = 0 ∧ ending.output = text ++ "\n" ∧ ending.tree = tree

end Ending

/-- A command that compiles the draft in a file and delivers what is made of its graph. -/
structure Carries (tree : FileTree) (config : Option String) (script : String)
    (target : Option String) (text note : Graph → String) (ending : Ending) : Prop where
  exitCode_eq_zero_iff : (∀ name ∈ target, tree.Receives name) →
    (ending.exitCode = 0 ↔ ∃ graph, Compiles tree config script graph)
  delivered : (∀ name ∈ target, tree.Receives name) → ∀ graph,
    Compiles tree config script graph → ending.Delivers tree (text graph) (note graph) target
  failed : (∀ graph, ¬ Compiles tree config script graph) → ending.Fails tree

theorem execute_failed (hargs : Request.ofArguments args = .ok ⟨config, task⟩)
    (hscript : task.script? = some script)
    (h : ∀ settings draft, ¬ LoadsDraft tree config script settings draft) :
    (execute tree args).Fails tree := by
  obtain ⟨failure, hrun⟩ := exists_run_eq_failed hscript h
  have hexecute : execute tree args = ⟨1, "", failure.text, tree⟩ := by
    simp only [execute, hargs, hrun]
  rw [hexecute]
  exact ⟨rfl, rfl, rfl⟩

theorem execute_written {name text note : String} (hargs : Request.ofArguments args = .ok request)
    (hrun : run tree.read request = .written name text note) (hname : tree.Receives name) :
    (execute tree args).Delivers tree text note (some name) := by
  have hexecute : execute tree args = ⟨0, note, "", tree.put [name] (.file text.toUTF8)⟩ := by
    simp only [execute, hargs, hrun, hname.save_eq]
  rw [hexecute]
  exact ⟨rfl, rfl, hname.saved_put text⟩

theorem execute_printed {text : String} (hargs : Request.ofArguments args = .ok request)
    (hrun : run tree.read request = .printed text) : execute tree args = ⟨0, text, "", tree⟩ := by
  simp only [execute, hargs, hrun]

theorem Ending.Delivers.exitCode {ending : Ending} {text note : String} {target : Option String}
    (h : ending.Delivers tree text note target) : ending.exitCode = 0 := by
  cases target <;> exact h.1

variable {target : Option String} {text note : Graph → String}

theorem carries_of_delivers (hargs : Request.ofArguments args = .ok ⟨config, task⟩)
    (hscript : task.script? = some script)
    (h : (∀ name ∈ target, tree.Receives name) → ∀ settings draft,
      run tree.read ⟨config, task⟩ = task.outcome settings draft →
        (execute tree args).Delivers tree (text (draft.compile settings))
          (note (draft.compile settings)) target) :
    Carries tree config script target text note (execute tree args) := by
  have hdelivered : (∀ name ∈ target, tree.Receives name) → ∀ graph,
      Compiles tree config script graph →
        (execute tree args).Delivers tree (text graph) (note graph) target := by
    intro htarget graph hgraph
    obtain ⟨settings, draft, hdraft, rfl⟩ := compiles_iff.mp hgraph
    exact h htarget settings draft (run_eq_outcome hscript hdraft)
  have hfailed : (∀ graph, ¬ Compiles tree config script graph) →
      (execute tree args).Fails tree := by
    intro hnone
    refine execute_failed hargs hscript fun settings draft hdraft ↦ ?_
    exact hnone _ (compiles_iff.mpr ⟨settings, draft, hdraft, rfl⟩)
  refine ⟨fun htarget ↦ ⟨fun hzero ↦ ?_, fun ⟨graph, hgraph⟩ ↦ ?_⟩, hdelivered, hfailed⟩
  · by_contra hnone
    have hone := (hfailed (not_exists.mp hnone)).exitCode
    omega
  · exact (hdelivered htarget graph hgraph).exitCode

theorem carries_compile {output : String}
    (hargs : Request.ofArguments args = .ok ⟨config, .compile script output⟩) :
    Carries tree config script (some output) Graph.text
      (fun graph ↦ s!"fingerprint={graph.fingerprint}\n") (execute tree args) :=
  carries_of_delivers hargs rfl fun htarget _ _ hrun ↦
    execute_written hargs hrun (htarget output rfl)

theorem carries_trace {steps : Nat} {output : String}
    (hargs : Request.ofArguments args = .ok ⟨config, .trace script steps output⟩) :
    Carries tree config script (some output) (fun graph ↦ traceDocument graph steps)
      (fun _ ↦ "") (execute tree args) :=
  carries_of_delivers hargs rfl fun htarget _ _ hrun ↦
    execute_written hargs hrun (htarget output rfl)

theorem carries_dot {output : Option String}
    (hargs : Request.ofArguments args = .ok ⟨config, .dot script output⟩) :
    Carries tree config script output Graph.dot (fun _ ↦ "") (execute tree args) := by
  refine carries_of_delivers hargs rfl fun htarget settings draft hrun ↦ ?_
  cases output with
  | none =>
    rw [execute_printed hargs hrun]
    exact ⟨rfl, rfl, rfl⟩
  | some output => exact execute_written hargs hrun (htarget output rfl)

def countLine (stats : Stats) : String :=
  s!"labels={stats.totalLabels} scenes={stats.sceneLabels} choices={stats.choiceCount} " ++
    s!"unreachable={stats.unreachableLabels}\n"

def findingLines (report : Report) : String :=
  String.join (report.issues.map fun issue ↦ s!"{issue.severity.name}: {issue.message}\n")

/-- A command that checks the draft in a file. -/
structure Validates (tree : FileTree) (config : Option String) (script : String) (strict : Bool)
    (ending : Ending) : Prop where
  unchanged : ending.tree = tree
  exitCode : ending.exitCode = 0 ∨ ending.exitCode = 1
  exitCode_eq_zero_iff : ending.exitCode = 0 ↔
    ∃ settings draft, LoadsDraft tree config script settings draft ∧
      (strict = true → ∀ issue ∈ (draft.lint settings).issues, issue.severity ≠ .warning)
  printed : ∀ settings draft, LoadsDraft tree config script settings draft →
    ending.output = findingLines (draft.lint settings) ++
      countLine (draft.compile settings).stats
  failed : (∀ settings draft, ¬ LoadsDraft tree config script settings draft) →
    ending.Fails tree

theorem summary_eq (settings : Settings) (draft : Draft) :
    summary settings draft =
      findingLines (draft.lint settings) ++ countLine (draft.compile settings).stats :=
  String.append_assoc

theorem hasWarnings_eq_false_iff {report : Report} :
    report.hasWarnings = false ↔ ∀ issue ∈ report.issues, issue.severity ≠ .warning := by
  simp [Report.hasWarnings]

section Validate

variable {strict : Bool}
  (hargs : Request.ofArguments args = .ok ⟨config, .validate script strict⟩)

include hargs

theorem execute_validate (h : LoadsDraft tree config script settings draft) :
    (execute tree args).exitCode =
        (if strict && (draft.lint settings).hasWarnings then 1 else 0) ∧
      (execute tree args).output =
        findingLines (draft.lint settings) ++ countLine (draft.compile settings).stats ∧
      (execute tree args).tree = tree := by
  have hrun : run tree.read ⟨config, .validate script strict⟩ =
      validate settings script strict draft := run_eq_outcome rfl h
  rw [validate, summary_eq] at hrun
  split_ifs at hrun ⊢
  · simp only [execute, hargs, hrun, and_self]
  · simp only [execute, hargs, hrun, and_self]

theorem exitCode_validate_eq_zero_iff (h : LoadsDraft tree config script settings draft) :
    (execute tree args).exitCode = 0 ↔
      (strict = true → ∀ issue ∈ (draft.lint settings).issues, issue.severity ≠ .warning) := by
  rw [(execute_validate hargs h).1, ← hasWarnings_eq_false_iff]
  cases strict <;> cases (draft.lint settings).hasWarnings <;> simp

theorem validates : Validates tree config script strict (execute tree args) := by
  have hfailed : (∀ settings draft, ¬ LoadsDraft tree config script settings draft) →
      (execute tree args).Fails tree := execute_failed hargs rfl
  by_cases hloads : ∃ settings draft, LoadsDraft tree config script settings draft
  · obtain ⟨settings, draft, h⟩ := hloads
    obtain ⟨hcode, _, htree⟩ := execute_validate hargs h
    refine ⟨htree, ?_, ⟨fun hzero ↦ ?_, ?_⟩, fun _ _ h ↦ (execute_validate hargs h).2.1, hfailed⟩
    · rw [hcode]
      split_ifs <;> simp
    · exact ⟨settings, draft, h, (exitCode_validate_eq_zero_iff hargs h).mp hzero⟩
    · rintro ⟨settings, draft, h, hclean⟩
      exact (exitCode_validate_eq_zero_iff hargs h).mpr hclean
  · have hnone : ∀ settings draft, ¬ LoadsDraft tree config script settings draft :=
      fun settings draft h ↦ hloads ⟨settings, draft, h⟩
    obtain ⟨hcode, _, htree⟩ := hfailed hnone
    refine ⟨htree, .inr hcode, ⟨fun hzero ↦ ?_, ?_⟩, fun _ _ h ↦ absurd h (hnone _ _), hfailed⟩
    · omega
    · rintro ⟨settings, draft, h, _⟩
      exact absurd h (hnone settings draft)

end Validate

theorem read?_text_of_compiles (h : Compiles tree config script graph)
    (hsize : graph.text.utf8ByteSize ≤ Limits.greatest) :
    Envelope.read? graph.text = some ⟨Graph.formatVersion, graph.fingerprint, graph⟩ := by
  obtain ⟨settings, draft, _, rfl⟩ := compiles_iff.mp h
  exact (Draft.indexed_compile hsize).read?_envelope

/-- Every request can be made. A command that compiles succeeds exactly where the library compiles
the text of its script under its settings. Then it delivers the document, the drawing or the trace
of that graph and leaves all other files as they were; else it prints nothing and leaves all files
as they were. The fingerprint that is printed is the one in the document, and what is read back from
a trace is the envelope of its graph's run. Validating writes no file, and it fails where the draft
cannot be loaded, and in its strict form where there is a warning. -/
theorem execute_agrees (tree : FileTree) (config : Option String) (script : String) :
    (∀ request : Request, request.IsPlain →
      Request.ofArguments request.arguments = .ok request) ∧
    (∀ args output, Request.ofArguments args = .ok ⟨config, .compile script output⟩ →
      Carries tree config script (some output) Graph.text
        (fun graph ↦ s!"fingerprint={graph.fingerprint}\n") (execute tree args)) ∧
    (∀ graph, Compiles tree config script graph →
      graph.text = (Envelope.toJson ⟨Graph.formatVersion, graph.fingerprint, graph⟩).pretty ∧
      (graph.text.utf8ByteSize ≤ Limits.greatest →
        Envelope.read? graph.text = some ⟨Graph.formatVersion, graph.fingerprint, graph⟩)) ∧
    (∀ args output, Request.ofArguments args = .ok ⟨config, .dot script output⟩ →
      Carries tree config script output Graph.dot (fun _ ↦ "") (execute tree args)) ∧
    (∀ args steps output, Request.ofArguments args = .ok ⟨config, .trace script steps output⟩ →
      Carries tree config script (some output) (fun graph ↦ traceDocument graph steps)
        (fun _ ↦ "") (execute tree args) ∧
      ∀ graph : Graph, TraceEnvelope.read? (traceDocument graph steps) =
        some ⟨1, Draft.currentVersion, graph.fingerprint, graph.trace steps⟩) ∧
    ∀ args strict, Request.ofArguments args = .ok ⟨config, .validate script strict⟩ →
      Validates tree config script strict (execute tree args) :=
  ⟨fun _ ↦ ofArguments_arguments, fun _ _ ↦ carries_compile,
    fun _ h ↦ ⟨rfl, read?_text_of_compiles h⟩, fun _ _ ↦ carries_dot,
    fun _ _ _ h ↦ ⟨carries_trace h, fun graph ↦
      read?_traceDocument graph (steps_le_of_ofArguments h)⟩, fun _ _ ↦ validates⟩

def taggedSettings : String := "[cover]\ntitle = \"Tag 1\"\n"

def forkScript : String :=
  "\x7b\"scenes\":[\x7b\"id\":\"a\",\"choices\":[\x7b\"next\":\"b\"\x7d]\x7d]\x7d"

def desk : FileTree where
  entries := [(["c.toml"], .file taggedSettings.toUTF8), (["s.json"], .file forkScript.toUTF8),
    (["g.json"], .file ⟨#[0xFF]⟩)]

theorem receives_desk : desk.Receives "g.json" where
  plain := ⟨by decide, by decide, by decide, by decide⟩
  short := by decide
  free := .inr ⟨_, rfl⟩

theorem loadsSettings_desk :
    LoadsSettings desk (some "c.toml") { cover := { title := "Tag 1" } } := by
  have hread : desk.read "c.toml" = .ok taggedSettings :=
    FileTree.read_plain_toUTF8 ⟨by decide, by decide, by decide, by decide⟩ (by decide) rfl
  have hparse : (Settings.parse taggedSettings).toOption =
      some { cover := { title := "Tag 1" } } := by decide +kernel
  refine .file hread ?_
  cases hresult : Settings.parse taggedSettings with
  | error error =>
    rw [hresult] at hparse
    cases hparse
  | ok settings =>
    rw [hresult] at hparse
    cases hparse
    rfl

theorem exists_loadsDraft_desk :
    ∃ draft, LoadsDraft desk (some "c.toml") "s.json" { cover := { title := "Tag 1" } } draft := by
  have hread : desk.read "s.json" = .ok forkScript :=
    FileTree.read_plain_toUTF8 ⟨by decide, by decide, by decide, by decide⟩ (by decide) rfl
  have hparse : Json.parse forkScript = .ok (.object [("scenes", .array [.object [
    ("id", .string "a"), ("choices", .array [.object [("next", .string "b")]])]])]) := rfl
  exact ⟨_, loadsSettings_desk, forkScript, hread,
    Draft.read_eq_iff_outcome.mpr (.draft (by decide) hparse (by decide))⟩

theorem not_compiles_desk (graph : Graph) : ¬ Compiles desk none "g.json" graph := by
  rintro ⟨settings, text, _, hread, _⟩
  rw [FileTree.read_plain receives_desk.plain receives_desk.short rfl] at hread
  cases hread

theorem execute_agrees_desk :
    Request.IsPlain ⟨some "c.toml", .compile "s.json" "g.json"⟩ ∧ desk.Receives "g.json" ∧
    (∃ graph, Compiles desk (some "c.toml") "s.json" graph ∧
      (execute desk ["compile", "s.json", "-o", "g.json", "--config", "c.toml"]).Delivers desk
        graph.text s!"fingerprint={graph.fingerprint}\n" (some "g.json") ∧
      (execute desk ["--config", "c.toml", "dot", "s.json"]).Delivers desk graph.dot "" none ∧
      (execute desk ["trace", "--steps=3", "s.json", "-og.json", "--config=c.toml"]).Delivers desk
        (traceDocument graph 3) "" (some "g.json") ∧
      TraceEnvelope.read? (traceDocument graph 3) =
        some ⟨1, Draft.currentVersion, graph.fingerprint, graph.trace 3⟩) ∧
    (execute desk ["validate", "s.json", "--config", "c.toml"]).exitCode = 0 ∧
    (execute desk ["compile", "g.json", "--output", "s.json"]).Fails desk := by
  have hword : ∀ word ∈ ["c.toml", "s.json", "g.json"], IsWord word := by
    simp only [List.forall_mem_cons]
    exact ⟨⟨by decide, nofun⟩, ⟨by decide, nofun⟩, ⟨by decide, nofun⟩, nofun⟩
  have hplain : Request.IsPlain ⟨some "c.toml", .compile "s.json" "g.json"⟩ := by
    refine ⟨?_, fun path h ↦ hword path (List.mem_cons_of_mem _ h), nofun⟩
    rintro _ ⟨⟩
    exact hword "c.toml" List.mem_cons_self
  obtain ⟨_, hcompile, _, hdot, htrace, hvalidate⟩ := execute_agrees desk (some "c.toml") "s.json"
  obtain ⟨htraced, hread⟩ :=
    htrace ["trace", "--steps=3", "s.json", "-og.json", "--config=c.toml"] 3 "g.json" rfl
  obtain ⟨_, hunread, _⟩ := execute_agrees desk none "g.json"
  obtain ⟨draft, hdraft⟩ := exists_loadsDraft_desk
  have hgraph := compiles_iff.mpr ⟨_, draft, hdraft, rfl⟩
  have hreceives : ∀ name ∈ some "g.json", desk.Receives name := by
    rintro _ ⟨⟩
    exact receives_desk
  refine ⟨hplain, receives_desk, ⟨_, hgraph, (hcompile _ _ rfl).delivered hreceives _ hgraph,
    (hdot _ none rfl).delivered nofun _ hgraph, htraced.delivered hreceives _ hgraph, hread _⟩,
    (hvalidate _ _ rfl).exitCode_eq_zero_iff.mpr ⟨_, draft, hdraft, nofun⟩,
    (hunread _ _ rfl).failed not_compiles_desk⟩

end StoryGraph.Command
