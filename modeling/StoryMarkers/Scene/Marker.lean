import StoryMarkers.Position
import StoryMarkers.Scene.Basic

set_option autoImplicit false

namespace StoryMarkers

structure Marker where
  /-- The address of the node's position. -/
  key : String
  identifier : String
  position : List Float
  size : Float
  showsInfo : Bool
  showsLabel : Bool
  radius : Float
  planet : Option Planet

namespace Marker

def ofNode (catalog : Catalog) (policy : Policy) (node : Node) : Marker :=
  let radius := Position.readNumber node.radius.value.toList
  let distance := Position.readNumber node.distance.value.toList
  { key := node.position.uri
    identifier := node.identifier
    position := Position.read node.position.value
    size := policy.size radius
    showsInfo := policy.showsInfo radius
    showsLabel := policy.showsLabel distance
    radius
    planet := catalog.find? node.identifier }

/-- The first two coordinates; one that is missing is not a number. -/
def xy (marker : Marker) : Float × Float :=
  (marker.position[0]?.getD Position.notANumber, marker.position[1]?.getD Position.notANumber)

end Marker

/-- One marker for each visible node, in the order of the nodes. -/
def Scene.markers (scene : Scene) (policy : Policy) : List Marker :=
  (scene.nodes.filter (·.isVisible)).map (Marker.ofNode scene.catalog policy)

end StoryMarkers
