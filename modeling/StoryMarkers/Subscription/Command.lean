import StoryMarkers.Scene.Node

set_option autoImplicit false

namespace StoryMarkers

inductive Command where
  | start (uri : String)
  | stop (uri : String)
deriving DecidableEq, Repr

namespace Command

def uri : Command → String
  | .start uri => uri
  | .stop uri => uri

/-- The properties that a list of nodes follows, in order. -/
def tracked (nodes : List Node) : List Property := nodes.flatMap (·.properties)

/-- A start for every property without listeners. -/
def starts (nodes : List Node) : List Command :=
  ((tracked nodes).filter (·.listeners = 0)).map fun p => .start p.uri

/-- The addresses followed before and not now, each once, in the order of their first occurrence. -/
def removed (previous current : List Node) : List String :=
  let live := (tracked current).map (·.uri)
  (((tracked previous).map (·.uri)).filter fun uri => !live.contains uri).eraseDups

/-- The requests that lead from the nodes displayed before to those displayed now. -/
def reconcile (previous current : List Node) (unsubscribeRemoved : Bool) : List Command :=
  starts current ++ if unsubscribeRemoved then (removed previous current).map .stop else []

/-- Gives back every property of every node. -/
def release (nodes : List Node) : List Command := (tracked nodes).map fun p => .stop p.uri

end Command

end StoryMarkers
