import StoryGraph.Graph.Compile

namespace StoryGraph

/-- A graph and which compilation of its session made it, counted from one. -/
structure Session.Edition where
  number : Nat
  graph : Graph
  deriving DecidableEq, Repr

structure Session (κ : Type) where
  settings : Settings
  cached : Option (κ × Session.Edition)
  compiles : Nat
  deriving Repr

namespace Session

variable {κ : Type} [DecidableEq κ]

def new (settings : Settings) : Session κ := ⟨settings, none, 0⟩

/-- The session's answer to a request and its state afterwards. A request for no draft forgets the
graph that was kept. -/
def request (content : κ → Draft) (session : Session κ) :
    Option κ → Option Edition × Session κ
  | none => (none, { session with cached := none })
  | some key =>
    match session.cached.filter fun kept ↦ kept.1 = key with
    | some (_, edition) => (some edition, session)
    | none =>
      let edition := ⟨session.compiles + 1, (content key).compile session.settings⟩
      (some edition,
        { session with cached := some (key, edition), compiles := session.compiles + 1 })

def requestEvents (content : κ → Draft) (session : Session κ) : Option κ → List Event
  | none => []
  | some key =>
    match session.cached.filter fun kept ↦ kept.1 = key with
    | some _ => []
    | none => (content key).compileEvents session.settings ++ [.recompiled (session.compiles + 1)]

end Session

end StoryGraph
