import StoryGraph.Label

namespace StoryGraph

inductive PlayError where
  | choiceRequired (label : Label)
  | noChoiceHere (label : Label)
  | invalidChoice (index : Nat)
  | noWayForward (label : Label)
  | unknownLabel (label : Label)
  deriving DecidableEq, Repr, Inhabited

namespace PlayError

def code : PlayError → String
  | choiceRequired _ => "cg.play.choice_required"
  | noChoiceHere _ => "cg.play.no_choice"
  | invalidChoice _ => "cg.play.invalid_choice"
  | noWayForward _ => "cg.play.no_affordance"
  | unknownLabel _ => "cg.play.unknown_label"

def message : PlayError → String
  | choiceRequired label => s!"a choice must be made to leave '{label.display}'"
  | noChoiceHere label => s!"'{label.display}' is not showing choices"
  | invalidChoice index => s!"choice index {index} out of range"
  | noWayForward label => s!"'{label.display}' has no way forward"
  | unknownLabel label => s!"label '{label.display}' does not exist"

end PlayError

end StoryGraph
