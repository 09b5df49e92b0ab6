import StoryGraph.Graph.Basic
import StoryGraph.Play.Error
import StoryGraph.Play.View

namespace StoryGraph

/-- Where a reader is. The cursor counts the lines that are behind; with all of them behind, the
menu or the control shows. -/
structure Player where
  label : Label
  cursor : Nat
  deriving DecidableEq, Repr, Inhabited

inductive Move where
  | advance
  | choose (index : Nat)
  | jump (label : Label)
  deriving DecidableEq, Repr, Inhabited

namespace Player

def start : Player := ⟨.cover, 0⟩

variable (graph : Graph) (player : Player)

def node : Except PlayError Node :=
  match graph.get? player.label with
  | some node => .ok node
  | none => .error (.unknownLabel player.label)

def viewAt (node : Node) : Except PlayError View :=
  match node.content with
  | .cover card =>
    let cta := if node.continuation = .terminal then none else some card.cta
    .ok (.cover card.title card.subtitle card.description cta)
  | .ending card => .ok (.ending card.title card.message card.cta)
  | .scene card =>
    match card.lines[player.cursor]? with
    | some line => .ok (.line line.speaker line.text)
    | none =>
      match node.continuation with
      | .menu branches => .ok (.menu (branches.map Branch.caption))
      | .proceed caption _ => .ok (.proceed caption)
      | .afterLastLine _ | .terminal => .error (.noWayForward player.label)

def view : Except PlayError View :=
  match player.node graph with
  | .ok node => player.viewAt node
  | .error error => .error error

def jump (label : Label) : Except PlayError Player :=
  if graph.contains label then .ok ⟨label, 0⟩ else .error (.unknownLabel label)

def leave (node : Node) : Except PlayError Player :=
  match node.continuation with
  | .afterLastLine target | .proceed _ target => jump graph target
  | .menu _ => .error (.choiceRequired player.label)
  | .terminal => .error (.noWayForward player.label)

def advanceAt (node : Node) : Except PlayError Player :=
  let count := node.content.lines.length
  if player.cursor + 1 < count then .ok ⟨player.label, player.cursor + 1⟩
  else if player.cursor < count then
    match node.continuation with
    | .afterLastLine target => jump graph target
    | _ => .ok ⟨player.label, count⟩
  else player.leave graph node

def advance : Except PlayError Player :=
  match player.node graph with
  | .ok node => player.advanceAt graph node
  | .error error => .error error

/-- The branches on show: those of a scene's menu once its lines are behind. -/
def branches? (node : Node) : Option (List Branch) :=
  match node.content, node.continuation with
  | .scene card, .menu branches => if card.lines.length ≤ player.cursor then some branches else none
  | _, _ => none

def choose (index : Nat) : Except PlayError Player :=
  match player.node graph with
  | .error error => .error error
  | .ok node =>
    match player.branches? node with
    | none => .error (.noChoiceHere player.label)
    | some branches =>
      match branches[index]? with
      | some branch => jump graph branch.target
      | none => .error (.invalidChoice index)

def move : Move → Except PlayError Player
  | .advance => player.advance graph
  | .choose index => player.choose graph index
  | .jump label => jump graph label

def step (m : Move) : Player :=
  match player.move graph m with
  | .ok next => next
  | .error _ => player

end Player

end StoryGraph
