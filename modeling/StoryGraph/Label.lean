namespace StoryGraph

/-- The name of a node. The two reserved labels have constructors of their own, so a scene whose id
is a reserved word still gets a label that differs from both. -/
inductive Label where
  | cover
  | ending
  | scene (id : String)
  deriving DecidableEq, Repr, Inhabited

namespace Label

def reserved? (word : String) : Option Label :=
  if word = "cover" then some cover else if word = "ending" then some ending else none

def isReserved (word : String) : Bool := (reserved? word).isSome

def sceneId? : Label → Option String
  | scene id => some id
  | cover | ending => none

def display : Label → String
  | cover => "cover"
  | ending => "ending"
  | scene id => id

theorem reserved?_ne_scene (word id : String) : reserved? word ≠ some (scene id) := by
  unfold reserved?
  split
  · simp
  · split <;> simp

end Label

end StoryGraph
