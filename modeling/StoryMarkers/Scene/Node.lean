import StoryMarkers.Tree.Lookup

set_option autoImplicit false

namespace StoryMarkers

inductive Tracked where
  | position
  | visibility
  | distance
  | radius
deriving DecidableEq, Repr

namespace Tracked

def all : List Tracked := [.position, .visibility, .distance, .radius]

theorem mem_all (kind : Tracked) : kind ∈ all := by cases kind <;> decide

def name : Tracked → String
  | .position => "ScreenSpacePosition"
  | .visibility => "ScreenVisibility"
  | .distance => "DistanceFromCamToNode"
  | .radius => "ScreenSizeRadius"

def uri (kind : Tracked) (sceneRoot node : String) : String :=
  Uri.child (Uri.child sceneRoot node) kind.name

end Tracked

structure Node where
  identifier : String
  tags : List String
  position : Property
  visibility : Property
  distance : Property
  radius : Property
deriving DecidableEq, Repr

namespace Node

def property (node : Node) : Tracked → Property
  | .position => node.position
  | .visibility => node.visibility
  | .distance => node.distance
  | .radius => node.radius

def properties (node : Node) : List Property := Tracked.all.map node.property

/-- Only the string `"true"` makes a node visible. -/
def isVisible (node : Node) : Bool := node.visibility.isString "true"

/-- The node of an owner, if the tree has all four properties under the node's address. -/
def ofOwner? (tree : Tree) (sceneRoot : String) (owner : Owner) : Option Node := do
  let find (kind : Tracked) := tree.find? (kind.uri sceneRoot owner.identifier)
  some {
    identifier := owner.identifier
    tags := owner.tags
    position := ← find .position
    visibility := ← find .visibility
    distance := ← find .distance
    radius := ← find .radius }

end Node

end StoryMarkers
