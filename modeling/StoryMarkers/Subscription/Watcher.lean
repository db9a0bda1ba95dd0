import StoryMarkers.Scene.Marker
import StoryMarkers.Subscription.Command

set_option autoImplicit false

namespace StoryMarkers

structure Watcher where
  settings : Settings := {}
  /-- The nodes of the latest snapshot. -/
  displayed : List Node := []

/-- What follows from a snapshot. -/
structure Update where
  markers : List Marker
  commands : List Command

namespace Watcher

def update (watcher : Watcher) (snapshot : Snapshot) : Watcher × Update :=
  let scene := Scene.ofSnapshot snapshot watcher.settings
  ({ watcher with displayed := scene.nodes },
    { markers := scene.markers watcher.settings.policy
      commands :=
        Command.reconcile watcher.displayed scene.nodes watcher.settings.unsubscribeRemoved })

/-- Leaves the scene; what was displayed is given back once. -/
def unmount (watcher : Watcher) : Watcher × List Command :=
  ({ watcher with displayed := [] }, Command.release watcher.displayed)

end Watcher

end StoryMarkers
