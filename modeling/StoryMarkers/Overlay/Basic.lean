import StoryMarkers.Geometry.Canvas
import StoryMarkers.Geometry.Viewport
import StoryMarkers.Overlay.Shape
import StoryMarkers.Scene.Marker

set_option autoImplicit false

namespace StoryMarkers

open Precision (single double)

structure Overlay where
  canvas : Canvas Float32
  viewport : Viewport Float32
  view : Rect Float32
  dark : Bool := true

/-- The length of a vector; the squares are added in double precision. -/
def Point.length (p : Point Float32) : Float32 :=
  single (double p.x * double p.x + double p.y * double p.y).sqrt

/-- A number that orders floats as their values, and tells apart all that differ in their bits. -/
def orderKey (x : Float32) : Int :=
  let bits := x.toBits.toNat
  if bits < 0x80000000 then bits else 0x7fffffff - bits

/-- The first item with the least key. -/
def firstLeast {β : Type} (key : β → Int) : List β → Option β
  | [] => none
  | item :: rest =>
    match firstLeast key rest with
    | none => some item
    | some best => if key best < key item then some best else some item

namespace Overlay

/-- Pixels per unit of size of a marker's dot. -/
def dotScale : Float32 := 3.0

/-- Pixels per unit of size of a marker's label. -/
def labelScale : Float32 := 6.0

/-- How near to the pointer a marker must be. -/
def reach : Float32 := 12.0

/-- Where a marker lies in the window; one without finite coordinates lies nowhere. -/
def screenPos? (overlay : Overlay) (marker : Marker) : Option (Point Float32) :=
  (overlay.viewport.toCanvas? marker.xy.1 marker.xy.2).map
    (overlay.canvas.toScreen · overlay.view)

def textColor (overlay : Overlay) : Color := .gray (if overlay.dark then 255 else 0)

/-- The border of the canvas. -/
def container (overlay : Overlay) : Shape :=
  .border (overlay.canvas.screenRect overlay.view) 2.0 (.gray (if overlay.dark then 150 else 100))

def dotColor (selected : Bool) : Color :=
  if selected then ⟨255, 200, 0, 255⟩ else ⟨0, 120, 255, 255⟩

/-- The shapes of a marker that lies at `pos`: ring, dot, label and description. -/
def markerShapes (overlay : Overlay) (marker : Marker) (selected : Bool) (pos : Point Float32) :
    List Shape :=
  let size : Float32 := if marker.size.isFinite then single marker.size else 1.0
  let color := dotColor selected
  let ring :=
    if marker.showsInfo && marker.radius.isFinite then
      [Shape.ring pos (single marker.radius * overlay.canvas.zoom) 1.0 (color.fade 0.6)]
    else []
  let beside : Point Float32 := pos + ⟨size * dotScale + 4.0, 0.0⟩
  let label :=
    if marker.showsLabel then
      [Shape.text marker.identifier beside .middle (size * labelScale) overlay.textColor]
    else []
  let below : Point Float32 :=
    if marker.showsLabel then ⟨beside.x, beside.y + size * labelScale⟩ else beside
  let info :=
    match marker.planet with
    | some planet =>
      if marker.showsInfo then
        [Shape.text planet.info below .top 11.0 (overlay.textColor.fade 0.8)]
      else []
    | none => []
  ring ++ [.dot pos (size * dotScale) color] ++ label ++ info

/-- The shapes of all markers that lie somewhere, in their order. -/
def shapes (overlay : Overlay) (markers : List Marker) (selected : Option String) : List Shape :=
  markers.flatMap fun marker =>
    match overlay.screenPos? marker with
    | some pos => overlay.markerShapes marker (selected = some marker.key) pos
    | none => []

/-- The markers within reach of a position, with their distances. -/
def within (overlay : Overlay) (markers : List Marker) (pos : Point Float32) :
    List (Float32 × Marker) :=
  (markers.filterMap fun marker =>
    (overlay.screenPos? marker).map fun place => ((place - pos).length, marker)).filter
      fun (distance, _) => distance < reach

/-- The key of the nearest marker within reach, the first one of several that are equally near. -/
def pick (overlay : Overlay) (markers : List Marker) (pos : Point Float32) : Option String :=
  (firstLeast (fun (distance, _) => orderKey distance) (overlay.within markers pos)).map
    fun (_, marker) => marker.key

end Overlay

end StoryMarkers
