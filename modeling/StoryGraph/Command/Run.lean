import StoryGraph.Command.Arguments
import StoryGraph.Command.FileTree
import StoryGraph.Draft.Schema
import StoryGraph.Graph.Dot
import StoryGraph.Graph.Envelope
import StoryGraph.Lint.Check
import StoryGraph.Play.Codec
import StoryGraph.Settings.Toml
import StoryGraph.Yaml.Printer

namespace StoryGraph.Command

structure Failure where
  account : String
  causes : List String
  deriving DecidableEq, Repr, Inhabited

namespace Failure

def setIn (blanks text : String) : String := ("\n" ++ blanks).intercalate (text.splitOn "\n")

def text (failure : Failure) : String :=
  let causes := match failure.causes with
    | [] => ""
    | [cause] => "\n\nCaused by:\n    " ++ setIn "    " cause
    | causes =>
      let lines := causes.mapIdx fun n cause ↦ s!"\n    {n}: " ++ setIn "       " cause
      "\n\nCaused by:" ++ String.join lines
  "Error: " ++ failure.account ++ causes ++ "\n"

end Failure

/-- What a request comes to. -/
inductive Outcome where
  | printed (text : String)
  | written (path contents text : String)
  | failed (text : String) (failure : Failure)
  deriving DecidableEq, Repr, Inhabited

variable (read : String → Except FileError String)

def loadSettings : Option String → Except Failure Settings
  | none => .ok {}
  | some path =>
    let account := "load compiler config"
    match read path with
    | .error error => .error ⟨account, [(SettingsError.unreadable path).message, error.message]⟩
    | .ok text =>
      match Settings.parse text with
      | .error error => .error ⟨account, error.message :: error.detail?.toList⟩
      | .ok settings => .ok settings

def loadDraft (settings : Settings) (path : String) : Except Failure Draft :=
  match read path with
  | .error error => .error ⟨s!"read {path}", [error.message]⟩
  | .ok text =>
    match Draft.read settings.limits text with
    | .error error => .error ⟨"parse script", [error.message]⟩
    | .ok none => .error ⟨s!"{path} is not a script object", []⟩
    | .ok (some draft) => .ok draft

def summary (settings : Settings) (draft : Draft) : String :=
  let stats := (draft.compile settings).stats
  String.join ((draft.lint settings).issues.map fun issue ↦
    s!"{issue.severity.name}: {issue.message}\n") ++
    s!"labels={stats.totalLabels} scenes={stats.sceneLabels} choices={stats.choiceCount} " ++
    s!"unreachable={stats.unreachableLabels}\n"

def traceVersion : Nat := 1

def traceEnvelope (graph : Graph) (steps : Nat) : TraceEnvelope :=
  ⟨traceVersion, Draft.currentVersion, graph.fingerprint, graph.trace steps⟩

def traceDocument (graph : Graph) (steps : Nat) : String :=
  Yaml.print (traceEnvelope graph steps).toJson

def deliver (contents : String) : Option String → Outcome
  | some path => .written path contents ""
  | none => .printed (contents ++ "\n")

def validate (settings : Settings) (path : String) (strict : Bool) (draft : Draft) : Outcome :=
  let report := draft.lint settings
  let text := summary settings draft
  if strict && report.hasWarnings then
    .failed text ⟨s!"{report.warnings.length} warning(s) in {path}", []⟩
  else .printed text

def run (request : Request) : Outcome :=
  match loadSettings read request.settings with
  | .error failure => .failed "" failure
  | .ok settings =>
    let withDraft (path : String) (next : Draft → Outcome) : Outcome :=
      match loadDraft read settings path with
      | .error failure => .failed "" failure
      | .ok draft => next draft
    match request.task with
    | .validate path strict => withDraft path (validate settings path strict)
    | .compile path output => withDraft path fun draft ↦
        let graph := draft.compile settings
        .written output graph.text s!"fingerprint={graph.fingerprint}\n"
    | .dot path output => withDraft path fun draft ↦ deliver (draft.compile settings).dot output
    | .trace path steps output => withDraft path fun draft ↦
        .written output (traceDocument (draft.compile settings) steps) ""
    | .schema output => deliver Draft.Schema.document.pretty output

def Request.sources (request : Request) : List String :=
  request.settings.toList ++
    match request.task with
    | .validate path _ | .compile path _ | .dot path _ | .trace path _ _ => [path]
    | .schema _ => []

structure Ending where
  exitCode : Nat
  output : String
  errors : String
  tree : FileTree
  deriving Inhabited

def usage : String :=
  "Usage: cgscript [OPTIONS] <COMMAND>\n\nCommands:\n  validate\n  compile\n  dot\n  trace\n" ++
    "  schema\n  help\n\nOptions:\n  --config <CONFIG>\n  -v, --verbose\n  -h, --help\n" ++
    "  -V, --version\n"

def versionText : String := "cg_script_cli 0.1.0\n"

def save (tree : FileTree) (path contents : String) : Except (Failure × FileTree) FileTree :=
  match tree.makeParents path with
  | .error error => .error (⟨error.message, []⟩, tree)
  | .ok made =>
    match made.write path contents with
    | .error error => .error (⟨s!"write {path}", [error.message]⟩, made)
    | .ok saved => .ok saved

/-- Carries out what the arguments ask for in a tree of files. -/
def execute (tree : FileTree) (args : List String) : Ending :=
  match Request.ofArguments args with
  | .error .usage => ⟨2, "", usage, tree⟩
  | .error .help => ⟨0, usage, "", tree⟩
  | .error .version => ⟨0, versionText, "", tree⟩
  | .ok request =>
    match run tree.read request with
    | .printed text => ⟨0, text, "", tree⟩
    | .failed text failure => ⟨1, text, failure.text, tree⟩
    | .written path contents text =>
      match save tree path contents with
      | .ok saved => ⟨0, text, "", saved⟩
      | .error (failure, left) => ⟨1, "", failure.text, left⟩

end StoryGraph.Command
