import StoryGraph.Content
import StoryGraph.Reference

namespace StoryGraph

namespace Script

structure Choice where
  caption : String
  next : Option String
  deriving DecidableEq, Repr, Inhabited

structure Scene where
  id : String
  background : Option String
  accent : Option String
  lines : List Line
  choices : List Choice
  next : Option String
  /-- The id that followed in the draft, before repeated ids were merged. -/
  fallback : Option String
  deriving DecidableEq, Repr, Inhabited

end Script

structure Script where
  cover : CoverCard
  scenes : List Script.Scene
  ending : Option EndingCard
  start : Option Label
  continueCaption : String
  deriving DecidableEq, Repr, Inhabited

namespace Script

variable (script : Script)

def hasEnding : Bool := script.ending.isSome

def index : SceneIndex := ⟨script.scenes.map Scene.id⟩

def scene? (id : String) : Option Scene :=
  (script.index.position? id).bind fun position ↦ script.scenes[position]?

end Script

end StoryGraph
