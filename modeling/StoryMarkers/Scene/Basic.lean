import StoryMarkers.Scene.Node
import StoryMarkers.Settings
import StoryMarkers.Snapshot

set_option autoImplicit false

namespace StoryMarkers

structure Scene where
  nodes : List Node := []
  catalog : Catalog := {}

namespace Scene

/-- The owners below the scene roots that carry a tag of the story. -/
def ownersOf (tree : Tree) (sceneRoot story : String) : List Owner :=
  ((tree.rootsNamed sceneRoot).flatMap (·.subowners)).filter (·.hasTag story)

/-- No story, no nodes. -/
def nodesOf (tree : Tree) (settings : Settings) : List Node :=
  match tree.find? settings.storyUri with
  | some story =>
    (ownersOf tree settings.sceneRoot story.value).filterMap
      (Node.ofOwner? tree settings.sceneRoot)
  | none => []

def ofSnapshot (snapshot : Snapshot) (settings : Settings) : Scene where
  nodes := nodesOf snapshot.tree settings
  catalog := Catalog.ofFetched snapshot.fetched settings.infoIconKey

/-- One property of every node. -/
def column (scene : Scene) (kind : Tracked) : List Property := scene.nodes.map (·.property kind)

end Scene

end StoryMarkers
