namespace StoryGraph

/-- A text that is present and not empty. -/
def filled (text : Option String) : Option String := text.filter fun s ↦ s ≠ ""

namespace Draft

def currentVersion : String := "1.0"

structure Cover where
  image : Option String
  background : Option String
  title : Option String
  subtitle : Option String
  description : Option String
  cta : Option String
  deriving DecidableEq, Repr, Inhabited

structure Line where
  speaker : Option String
  text : Option String
  deriving DecidableEq, Repr, Inhabited

structure Choice where
  label : Option String
  next : Option String
  deriving DecidableEq, Repr, Inhabited

structure Scene where
  id : Option String
  background : Option String
  accent : Option String
  dialogue : List Line
  choices : List Choice
  next : Option String
  deriving DecidableEq, Repr, Inhabited

structure Ending where
  image : Option String
  title : Option String
  message : Option String
  cta : Option String
  deriving DecidableEq, Repr, Inhabited

def Scene.name? (scene : Scene) : Option String := filled scene.id

end Draft

/-- A story as its author stores it. Every field may be missing, ids may be repeated or absent, and
references may lead nowhere. -/
structure Draft where
  version : Option String
  cover : Option Draft.Cover
  scenes : List Draft.Scene
  ending : Option Draft.Ending
  startScene : Option String
  deriving DecidableEq, Repr, Inhabited

namespace Draft

variable (draft : Draft)

def hasEnding : Bool := draft.ending.isSome

/-- The scenes that have an id, each under its id, in written order. -/
def named : List (String × Scene) := draft.scenes.filterMap fun scene ↦ scene.name?.map (·, scene)

def ids : List String := draft.named.map Prod.fst

end Draft

end StoryGraph
