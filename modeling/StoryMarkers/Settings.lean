import StoryMarkers.Json.Decode
import StoryMarkers.Policy

set_option autoImplicit false

namespace StoryMarkers

structure Settings where
  /-- The address of the property that names the active story. -/
  storyUri : String := "Story.Identifier"
  /-- The id of the fetched descriptions of planets. -/
  infoIconKey : String := "infoIcons"
  /-- The root owners whose children are the nodes of the scene. -/
  sceneRoot : String := "Scene"
  /-- Whether to stop listening to properties that leave the scene. -/
  unsubscribeRemoved : Bool := true
  logLevel : String := "info"
  policy : Policy := {}

open Json

def Policy.record : Record Policy where
  name := "MarkerPolicy"
  start := {}
  fields := [
    { name := "label_distance_scale"
      read := fun depth doc x => do .ok { x with labelDistanceScale := ← decodeReal depth doc } },
    { name := "label_threshold"
      read := fun depth doc x => do .ok { x with labelThreshold := ← decodeReal depth doc } },
    { name := "size_factor"
      read := fun depth doc x => do .ok { x with sizeFactor := ← decodeReal depth doc } },
    { name := "min_size"
      read := fun depth doc x => do .ok { x with minSize := ← decodeReal depth doc } },
    { name := "max_size"
      read := fun depth doc x => do .ok { x with maxSize := ← decodeReal depth doc } },
    { name := "info_radius_threshold"
      read := fun depth doc x => do .ok { x with infoRadiusThreshold := ← decodeReal depth doc } }]

namespace Settings

def record : Record Settings where
  name := "Config"
  start := {}
  fields := [
    { name := "story_uri"
      read := fun depth doc x => do .ok { x with storyUri := ← decodeText depth doc } },
    { name := "info_icon_key"
      read := fun depth doc x => do .ok { x with infoIconKey := ← decodeText depth doc } },
    { name := "scene_root"
      read := fun depth doc x => do .ok { x with sceneRoot := ← decodeText depth doc } },
    { name := "unsubscribe_removed"
      read := fun depth doc x => do .ok { x with unsubscribeRemoved := ← decodeBool depth doc } },
    { name := "log_level"
      read := fun depth doc x => do .ok { x with logLevel := ← decodeText depth doc } },
    { name := "policy"
      read := fun depth doc x => do .ok { x with policy := ← Policy.record.decode depth doc } }]

/-- Settings from JSON; the policy is taken as it is. -/
def ofJson (text : String) : Except Fault Settings := Json.decode record.decode text

end Settings

end StoryMarkers
