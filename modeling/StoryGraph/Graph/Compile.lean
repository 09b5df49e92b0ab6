import StoryGraph.Graph.Basic
import StoryGraph.Draft.Reading
import StoryGraph.Script.Normalize

namespace StoryGraph

namespace Script

variable (script : Script)

def resolve (candidate : Option String) (fallback : Option Label) : Label :=
  Reference.resolve script.index script.hasEnding candidate fallback

def coverContinuation : Continuation :=
  match script.start with
  | some target => .proceed script.cover.cta target
  | none => if script.hasEnding then .proceed script.cover.cta .ending else .terminal

def coverNode : Node := ⟨.cover, .cover script.cover, script.coverContinuation⟩

def nextOf (scene : Scene) : Label := script.resolve scene.next (scene.fallback.map .scene)

/-- The branch of a choice; one whose reference is overridden goes where the scene goes. -/
def branch (scene : Scene) (index : Nat) (choice : Choice) : Branch :=
  ⟨index, choice.caption, script.resolve choice.next (some (script.nextOf scene))⟩

def sceneContinuation (scene : Scene) : Continuation :=
  if !scene.choices.isEmpty then .menu (scene.choices.mapIdx (script.branch scene))
  else if scene.lines.isEmpty then .proceed script.continueCaption (script.nextOf scene)
  else .afterLastLine (script.nextOf scene)

def sceneNode (scene : Scene) : Node :=
  ⟨.scene scene.id, .scene ⟨scene.background, scene.accent, scene.lines⟩,
    script.sceneContinuation scene⟩

def endingNode (card : EndingCard) : Node :=
  ⟨.ending, .ending card, .proceed card.cta .cover⟩

def compile : Graph where
  nodes := script.coverNode :: (script.scenes.map script.sceneNode ++
    (script.ending.map endingNode).toList)
  start := script.start

def resolveEvents (candidate : Option String) : List Event :=
  Reference.events script.index script.hasEnding candidate

def sceneEvents (scene : Scene) : List Event :=
  script.resolveEvents scene.next ++
    scene.choices.flatMap fun choice ↦ script.resolveEvents choice.next

def compileEvents : List Event :=
  .compiling script.scenes.length :: (script.scenes.flatMap script.sceneEvents ++
    [.compiled script.compile.nodes.length])

end Script

namespace Draft

variable (settings : Settings)

def compile (draft : Draft) : Graph := (draft.normalize settings).compile

def compileEvents (draft : Draft) : List Event :=
  draft.normalizeEvents ++ (draft.normalize settings).compileEvents

def compileText (text : String) : Except DraftError Graph :=
  match read settings.limits text with
  | .error error => .error error
  | .ok none => .error .notConfigured
  | .ok (some draft) => .ok (draft.compile settings)

def compileTextEvents (text : String) : List Event :=
  readEvents settings.limits text ++
    match read settings.limits text with
    | .ok (some draft) => draft.compileEvents settings
    | .ok none | .error _ => []

end Draft

end StoryGraph
