namespace StoryGraph

structure Line where
  speaker : Option String
  text : String
  deriving DecidableEq, Repr, Inhabited

structure CoverCard where
  image : Option String
  title : String
  subtitle : String
  description : String
  cta : String
  deriving DecidableEq, Repr, Inhabited

structure EndingCard where
  image : Option String
  title : String
  message : String
  cta : String
  deriving DecidableEq, Repr, Inhabited

structure SceneCard where
  background : Option String
  accent : Option String
  lines : List Line
  deriving DecidableEq, Repr, Inhabited

inductive Content where
  | cover (card : CoverCard)
  | scene (card : SceneCard)
  | ending (card : EndingCard)
  deriving DecidableEq, Repr, Inhabited

namespace Content

def lines : Content → List Line
  | scene card => card.lines
  | cover _ | ending _ => []

end Content

end StoryGraph
