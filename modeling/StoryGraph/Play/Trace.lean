import StoryGraph.Event
import StoryGraph.Play.Player

namespace StoryGraph

structure TraceStep where
  step : Nat
  label : Label
  view : View
  deriving DecidableEq, Repr, Inhabited

structure Trace where
  steps : List TraceStep
  deriving DecidableEq, Repr, Inhabited

/-- Every element that differs from the one before it. -/
def collapse {α : Type} [DecidableEq α] : List α → List α
  | [] => []
  | a :: as =>
    match collapse as with
    | [] => [a]
    | b :: bs => if a = b then b :: bs else a :: b :: bs

def Trace.path (trace : Trace) : List Label := collapse (trace.steps.map TraceStep.label)

namespace Player

variable (graph : Graph)

def proceed (player : Player) (view : View) : Except PlayError Player :=
  if view.isMenu then player.choose graph 0 else player.advance graph

def walk (step : Nat) : Nat → Player → List TraceStep
  | 0, _ => []
  | fuel + 1, player =>
    match player.view graph with
    | .error _ => []
    | .ok view =>
      ⟨step, player.label, view⟩ ::
        match player.proceed graph view with
        | .ok next => walk (step + 1) fuel next
        | .error _ => []

def walkEvents (step : Nat) : Nat → Player → List Event
  | 0, _ => []
  | fuel + 1, player =>
    match player.view graph with
    | .error _ => []
    | .ok view =>
      match player.proceed graph view with
      | .ok next => walkEvents (step + 1) fuel next
      | .error error => [.playthroughStopped error step]

end Player

/-- What a reader who always takes the first choice sees first, from the cover on. -/
def Graph.trace (graph : Graph) (count : Nat) : Trace := ⟨Player.start.walk graph 0 count⟩

def Graph.traceEvents (graph : Graph) (count : Nat) : List Event :=
  Player.start.walkEvents graph 0 count

end StoryGraph
