import StoryMarkers.App.Widget
import StoryMarkers.Geometry.Canvas
import StoryMarkers.Geometry.Viewport
import StoryMarkers.Overlay.Basic
import StoryMarkers.Subscription.Service
import StoryMarkers.Subscription.Watcher

set_option autoImplicit false

namespace StoryMarkers

/-- A number that is typed into instead of shown. -/
structure Edit where
  dimension : Dimension
  /-- What stands there, once it has been shown. -/
  text : Option String := none
deriving DecidableEq, Repr

/-- What the user has set, chosen or been told, and how the panels were laid out. -/
structure View where
  size : Point Float32 := ⟨1920.0, 1080.0⟩
  bottomLeft : Bool := true
  dark : Bool := true
  showContainer : Bool := true
  fitRequested : Bool := true
  /-- Whether the viewport settings are unfolded. -/
  unfolded : Bool := false
  /-- Whether the viewport settings were unfolded at some time, so that their height is known. -/
  unfoldedOnce : Bool := false
  /-- The height of the viewport settings in the update that unfolds them or folds them away. -/
  turning : Option Nat := none
  /-- The number of the viewport settings that is typed into. -/
  edit : Option Edit := none
  /-- The width of the side panel. -/
  panelWidth : Nat := Layout.panelStart
  panel : Scrolled := {}
  /-- The list of markers in the side panel. -/
  list : Scrolled := {}
  selected : Option String := none
  cursor : Option (Float × Float) := none
  status : Option String := none

structure App where
  canvas : Canvas Float32
  viewport : Viewport Float32
  service : Service
  watcher : Watcher
  /-- The markers of the latest refresh. -/
  current : List Marker := []
  view : View := {}
  clipboard : Option String := none
  /-- The snapshot that can be loaded again. -/
  path : Option String := none

namespace App

def start (settings : Settings) (snapshot : Snapshot) (path : Option String) : App where
  canvas := .ofSize ({} : View).size
  viewport := { size := ({} : View).size }
  service := { snapshot }
  watcher := { settings }
  path

def copy (app : App) (text : String) : App := { app with clipboard := some text }

/-- Takes a snapshot that was read from a path, or says why there is none. -/
def take (app : App) (path : String) (snapshot : Except SnapshotError Snapshot) : App :=
  match snapshot with
  | .ok snapshot =>
    { app with
      service := (app.service.replaceTree snapshot.tree).setFetched snapshot.fetched
      path := some path
      view := { app.view with status := some ("Loaded " ++ path) } }
  | .error e => { app with view := { app.view with status := some e.message } }

def load (app : App) (files : Files) (path : String) : App :=
  app.take path (Snapshot.load files path)

/-- The selection, if its marker is among the given ones. -/
def keptSelection (selected : Option String) (markers : List Marker) : Option String :=
  selected.filter fun key => markers.any (·.key = key)

/-- Follows the snapshot: new markers, and the requests that they take. -/
def refresh (app : App) : App :=
  let (watcher, update) := app.watcher.update app.service.snapshot
  { app with
    watcher
    service := app.service.dispatch update.commands
    current := update.markers
    view := { app.view with selected := keptSelection app.view.selected update.markers } }

/-- Gives the canvas the size and the origin that are set. -/
def syncViewport (app : App) : App :=
  { app with
    canvas := app.canvas.setSize app.view.size
    viewport := ⟨app.view.bottomLeft, app.view.size⟩ }

/-- Nothing is typed into any more; what was typed is lost. -/
def endEdit (app : App) : App := { app with view := { app.view with edit := none } }

/-- Gives back all properties; the markers on the screen stay. -/
def close (app : App) : App :=
  let (watcher, commands) := app.watcher.unmount
  { app with watcher, service := app.service.dispatch commands }

def overlay (app : App) (rect : Rect Float32) : Overlay where
  canvas := app.canvas
  viewport := app.viewport
  view := rect
  dark := app.view.dark

/-- The marker that is selected. -/
def selectedMarker? (app : App) : Option Marker :=
  app.view.selected.bind fun key => app.current.find? (·.key = key)

end App

end StoryMarkers
