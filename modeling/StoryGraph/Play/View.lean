namespace StoryGraph

inductive View where
  | cover (title subtitle description : String) (cta : Option String)
  | line (speaker : Option String) (text : String)
  | menu (options : List String)
  | proceed (caption : String)
  | ending (title message cta : String)
  deriving DecidableEq, Repr, Inhabited

def View.isMenu : View → Bool
  | menu _ => true
  | cover .. | line .. | proceed _ | ending .. => false

end StoryGraph
