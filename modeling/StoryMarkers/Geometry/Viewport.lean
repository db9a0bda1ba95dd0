import StoryMarkers.Geometry.Basic
import StoryMarkers.Geometry.Precision

set_option autoImplicit false

namespace StoryMarkers

/-- The engine's viewport, whose pixels are counted from the bottom left, or from the top left as
those of the canvas are. -/
structure Viewport (α : Type) where
  bottomLeft : Bool := true
  size : Point α
deriving Repr

namespace Viewport

open Precision (single double)

/-- From engine to canvas coordinates and back: both ways turn the picture upside down or not. -/
def flip {α : Type} [Scalar α] (viewport : Viewport α) (p : Point α) : Point α :=
  if viewport.bottomLeft then ⟨p.x, viewport.size.y - p.y⟩ else p

/-- A position of the engine on the canvas; one that is not finite is nowhere. -/
def toCanvas? (viewport : Viewport Float32) (x y : Float) : Option (Point Float32) :=
  if x.isFinite && y.isFinite then some (viewport.flip ⟨single x, single y⟩) else none

def toEngine (viewport : Viewport Float32) (p : Point Float32) : Float × Float :=
  let q := viewport.flip p
  (double q.x, double q.y)

end Viewport

end StoryMarkers
