import StoryGraph.Play.Error
import StoryGraph.Json.Value
import StoryGraph.Draft.Basic

namespace StoryGraph

/-- What the library reports while it works. Each stage has a function of its own that lists its
events in order; the stages themselves do not depend on them. -/
inductive Event where
  | startSceneWrittenTwice
  | notAnObject
  | normalizing (scenes : Nat)
  | versionDiffers (found : String)
  | sceneWithoutId (position : Nat)
  | repeatedId (id : String) (previous position : Nat)
  | reservedId (id : String)
  | unknownStart (declared : String)
  | compiling (scenes : Nat)
  | missingEnding
  | danglingReference (candidate : String)
  | compiled (labels : Nat)
  | recompiled (compiles : Nat)
  | playthroughStopped (error : PlayError) (step : Nat)
  deriving DecidableEq, Repr, Inhabited

namespace Event

inductive Kind where
  | debug (message : String)
  | warning (message : String)
  | span (name : String)
  deriving DecidableEq, Repr, Inhabited

def kind : Event → Kind
  | startSceneWrittenTwice => .debug "ignoring start_scene, startScene is also set"
  | notAnObject => .debug "top-level script is not an object"
  | normalizing _ => .span "normalize_script"
  | versionDiffers _ => .warning "script schema version differs, reading it anyway"
  | sceneWithoutId _ => .debug "dropping scene without id"
  | repeatedId .. => .debug "duplicate scene id, later scene wins"
  | reservedId _ =>
    .warning "scene id shadows a reserved label; references to it reach the reserved label"
  | unknownStart _ => .debug "start scene not found, using first scene"
  | compiling _ => .span "compile"
  | missingEnding => .debug "reference to `ending` without an ending, falling back"
  | danglingReference _ => .debug "dangling reference, falling back"
  | compiled _ => .debug "compiled label graph"
  | recompiled _ => .debug "script changed, recompiled"
  | playthroughStopped .. => .debug "playthrough stopped"

def fields : Event → Json.Members
  | startSceneWrittenTwice | notAnObject | missingEnding => []
  | normalizing scenes | compiling scenes => [("scenes", .nat scenes)]
  | versionDiffers found => [("found", .string found), ("expected", .string Draft.currentVersion)]
  | sceneWithoutId position => [("position", .nat position)]
  | repeatedId id previous position =>
    [("id", .string id), ("previous", .nat previous), ("position", .nat position)]
  | reservedId id => [("id", .string id)]
  | unknownStart declared => [("declared", .string declared)]
  | danglingReference candidate => [("candidate", .string candidate)]
  | compiled labels => [("labels", .nat labels)]
  | recompiled compiles => [("compiles", .nat compiles)]
  | playthroughStopped error step => [("err", .string error.message), ("step", .nat step)]

def toJson (event : Event) : Json :=
  let level (name message : String) : Json :=
    .object [("level", .string name),
      ("fields", .object (("message", .string message) :: event.fields))]
  match event.kind with
  | .debug message => level "DEBUG" message
  | .warning message => level "WARN" message
  | .span name => .object [("span", .string name), ("fields", .object event.fields)]

end Event

end StoryGraph
