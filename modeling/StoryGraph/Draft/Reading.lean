import StoryGraph.Draft.Basic
import StoryGraph.Event
import StoryGraph.Json.Excerpt
import StoryGraph.Json.Reader
import StoryGraph.Settings.Basic

namespace StoryGraph

namespace Json

/-- A text for display: strings as they are, numbers by their digits. -/
def text? : Json → Option String
  | string s => some s
  | number n => some n.text
  | _ => none

/-- An id or a reference: a text, except that a number equal to zero is none. -/
def reference? : Json → Option String
  | string s => some s
  | number n => if n.isZero then none else some n.text
  | _ => none

def entries : Json → List Members
  | array items => items.filterMap members?
  | _ => []

end Json

namespace Draft

variable (members : Json.Members)

def textAt (name : String) : Option String := (members.get? name).bind Json.text?

def referenceAt (name : String) : Option String := (members.get? name).bind Json.reference?

def entriesAt (name : String) : List Json.Members := ((members.get? name).map Json.entries).getD []

def sectionAt (name : String) : Option Json.Members := (members.get? name).bind Json.members?

def Cover.ofMembers : Cover where
  image := textAt members "image"
  background := textAt members "background"
  title := textAt members "title"
  subtitle := textAt members "subtitle"
  description := textAt members "description"
  cta := textAt members "cta"

def Line.ofMembers : Line where
  speaker := textAt members "speaker"
  text := textAt members "text"

def Choice.ofMembers : Choice where
  label := textAt members "label"
  next := referenceAt members "next"

def Scene.ofMembers : Scene where
  id := referenceAt members "id"
  background := textAt members "background"
  accent := textAt members "accent"
  dialogue := (entriesAt members "dialogue").map Line.ofMembers
  choices := (entriesAt members "choices").map Choice.ofMembers
  next := referenceAt members "next"

def Ending.ofMembers : Ending where
  image := textAt members "image"
  title := textAt members "title"
  message := textAt members "message"
  cta := textAt members "cta"

/-- The name under which the start scene is looked up. The second spelling counts only where the
first is not used at all. -/
def startSceneName : String :=
  if (members.get? "startScene").isSome then "startScene" else "start_scene"

def ofMembers : Draft where
  version := textAt members "script_schema_version"
  cover := (sectionAt members "cover").map Cover.ofMembers
  scenes := (entriesAt members "scenes").map Scene.ofMembers
  ending := (sectionAt members "ending").map Ending.ofMembers
  startScene := referenceAt members (startSceneName members)

/-- The draft in a JSON value; a value that is not an object is no draft. -/
def ofJson? (value : Json) : Option Draft := value.members?.map ofMembers

def ofJsonEvents (value : Json) : List Event :=
  match value.members? with
  | none => [.notAnObject]
  | some members =>
    if (members.get? "startScene").isSome && (members.get? "start_scene").isSome then
      [.startSceneWrittenTwice]
    else []

end Draft

inductive DraftError where
  | tooManyBytes (size budget : Nat)
  | malformed (error : Json.SyntaxError) (excerpt : Json.Excerpt)
  | tooManyScenes (count budget : Nat)
  | notConfigured
  deriving DecidableEq, Repr, Inhabited

namespace DraftError

def code : DraftError → String
  | tooManyBytes .. | tooManyScenes .. => "cg.resource_limit"
  | malformed .. => "cg.serialization"
  | notConfigured => "cg.not_configured"

def message : DraftError → String
  | tooManyBytes size budget =>
    s!"resource limit exceeded: script is {size} bytes, budget is {budget}"
  | tooManyScenes count budget =>
    s!"resource limit exceeded: script has {count} scenes, budget is {budget}"
  | malformed error _ => s!"serialization error: {error.message}"
  | notConfigured => "script is not configured"

def help? : DraftError → Option String
  | notConfigured => some "the script document must be a JSON object with a `scenes` list"
  | _ => none

end DraftError

namespace Draft

/-- The draft of a document, or `none` if the document is not an object. The byte budget is checked
before the text is looked at, the scene budget after. -/
def read (limits : Limits) (text : String) : Except DraftError (Option Draft) :=
  if limits.maxScriptBytes < text.utf8ByteSize then
    .error (.tooManyBytes text.utf8ByteSize limits.maxScriptBytes)
  else
    match Json.parse text with
    | .error error => .error (.malformed error (error.excerpt text))
    | .ok value =>
      match ofJson? value with
      | none => .ok none
      | some draft =>
        if limits.maxScenes < draft.scenes.length then
          .error (.tooManyScenes draft.scenes.length limits.maxScenes)
        else .ok (some draft)

def readEvents (limits : Limits) (text : String) : List Event :=
  if limits.maxScriptBytes < text.utf8ByteSize then []
  else
    match Json.parse text with
    | .error _ => []
    | .ok value => ofJsonEvents value

end Draft

end StoryGraph
