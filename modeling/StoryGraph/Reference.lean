import StoryGraph.Label
import StoryGraph.Draft.Occurrence
import StoryGraph.Event

namespace StoryGraph

/-- The ids of a list of scenes. A repeated id stands for its last position. -/
structure SceneIndex where
  ids : List String
  deriving DecidableEq, Repr, Inhabited

namespace SceneIndex

variable (index : SceneIndex)

def contains (id : String) : Bool := index.ids.contains id

def position? (id : String) : Option Nat := Occurrence.lastIndex? id index.ids

def size : Nat := (Occurrence.distinct index.ids).length

def isEmpty : Bool := index.ids.isEmpty

end SceneIndex

namespace Reference

variable (index : SceneIndex) (hasEnding : Bool)

/-- The label that a reference word reaches by itself: a reserved label if the story has it, and
otherwise a scene. The word `ending` never reaches a scene. -/
def honoured? (word : String) : Option Label :=
  match Label.reserved? word with
  | some .ending => if hasEnding then some .ending else none
  | some label => some label
  | none => if index.contains word then some (.scene word) else none

def fallback? (fallback : Option Label) : Option Label :=
  (fallback.bind Label.sceneId?).bind fun id ↦ if index.contains id then some (.scene id) else none

def last : Label := if hasEnding then .ending else .cover

/-- The label that follows. A reference that is honoured decides; then a fallback that is a scene;
then the ending, or the cover of a story that has none. -/
def resolve (candidate : Option String) (fallback : Option Label) : Label :=
  match (filled candidate).bind (honoured? index hasEnding) with
  | some label => label
  | none => (fallback? index fallback).getD (last hasEnding)

def events (candidate : Option String) : List Event :=
  match filled candidate with
  | none => []
  | some word =>
    if (honoured? index hasEnding word).isSome then []
    else if Label.isReserved word then [.missingEnding]
    else [.danglingReference word]

end Reference

end StoryGraph
