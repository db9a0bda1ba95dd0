import StoryMarkers.Geometry.Basic

set_option autoImplicit false

namespace StoryMarkers

/-- The engine's viewport as it lies in the window. It is shown in a view, a part of the window, in
the middle of which it lies but for its offset. -/
structure Canvas (α : Type) where
  size : Point α
  offset : Point α
  zoom : α
deriving Repr

namespace Canvas

variable {α : Type} [Scalar α]

def minZoom : α := 0.1

def maxZoom : α := 10.0

def limitZoom (zoom : α) : α := Scalar.clamp minZoom maxZoom zoom

def ofSize (size : Point α) : Canvas α := ⟨size, .origin, 0.5⟩

def setSize (canvas : Canvas α) (size : Point α) : Canvas α := { canvas with size }

def pan (canvas : Canvas α) (movement : Point α) : Canvas α :=
  { canvas with offset := canvas.offset + movement }

/-- Zooms so that the point of the canvas at `pos` stays where it is. -/
def zoomAt (canvas : Canvas α) (factor : α) (pos : Point α) (view : Rect α) : Canvas α :=
  let zoom := limitZoom (canvas.zoom * factor)
  let fromCenter := pos - (view.center + canvas.offset)
  { canvas with
    zoom
    offset := canvas.offset - fromCenter.scale (zoom / canvas.zoom - 1.0) }

/-- Centres the canvas and zooms so that it fits the view with a margin. -/
def fit (canvas : Canvas α) (view : Rect α) : Canvas α :=
  let centred := { canvas with offset := .origin }
  if canvas.size.x ≤ 0.0 ∨ canvas.size.y ≤ 0.0 then centred
  else
    let scale := Scalar.lesser (view.width / canvas.size.x) (view.height / canvas.size.y)
    { centred with zoom := limitZoom (scale * 0.95) }

/-- Where the canvas lies in the window. -/
def screenRect (canvas : Canvas α) (view : Rect α) : Rect α :=
  .ofCenterSize (view.center + canvas.offset) (canvas.size.scale canvas.zoom)

/-- From a position in the window to the canvas. -/
def toCanvas (canvas : Canvas α) (pos : Point α) (view : Rect α) : Point α :=
  (pos - (canvas.screenRect view).min).shrink canvas.zoom

/-- From a position on the canvas to the window. -/
def toScreen (canvas : Canvas α) (pos : Point α) (view : Rect α) : Point α :=
  (canvas.screenRect view).min + pos.scale canvas.zoom

end Canvas

end StoryMarkers
