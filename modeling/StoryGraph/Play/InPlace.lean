import StoryGraph.Play.Player

namespace StoryGraph.Player

/-- An action on the reader. One that fails leaves the reader where it has been written to. -/
abbrev InPlace := EStateM PlayError Player

namespace InPlace

def after {α : Type} (action : InPlace α) (player : Player) : Player :=
  match action.run player with
  | .ok _ next => next
  | .error _ next => next

variable (graph : Graph)

def node : InPlace Node := do
  let player ← get
  match graph.get? player.label with
  | some node => return node
  | none => throw (.unknownLabel player.label)

def jump (label : Label) : InPlace Unit := do
  if !graph.contains label then throw (.unknownLabel label)
  modify fun player ↦ { player with label }
  modify fun player ↦ { player with cursor := 0 }

def leave (node : Node) : InPlace Unit := do
  match node.continuation with
  | .afterLastLine target | .proceed _ target => jump graph target
  | .menu _ => throw (.choiceRequired (← get).label)
  | .terminal => throw (.noWayForward (← get).label)

def advance : InPlace Unit := do
  let node ← node graph
  let player ← get
  let count := node.content.lines.length
  if player.cursor + 1 < count then
    modify fun player ↦ { player with cursor := player.cursor + 1 }
  else if player.cursor < count then
    match node.continuation with
    | .afterLastLine target => jump graph target
    | _ => modify fun player ↦ { player with cursor := count }
  else leave graph node

def choose (index : Nat) : InPlace Label := do
  let node ← node graph
  let player ← get
  let some branches := player.branches? node | throw (.noChoiceHere player.label)
  let some branch := branches[index]? | throw (.invalidChoice index)
  jump graph branch.target
  return branch.target

def perform : Move → InPlace Unit
  | .advance => advance graph
  | .choose index => do
    let _ ← choose graph index
    return ()
  | .jump label => jump graph label

def play (moves : List Move) : Player :=
  moves.foldl (fun player m ↦ after (perform graph m) player) start

end InPlace

end StoryGraph.Player
