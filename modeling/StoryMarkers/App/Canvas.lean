import StoryMarkers.App.State

set_option autoImplicit false

namespace StoryMarkers

/-- The pointer during one frame. -/
structure Pointer where
  position : Option (Point Float32) := none
  /-- The movement of a drag that moves the canvas. -/
  drag : Option (Point Float32) := none
  /-- The turn of the wheel, upwards if positive. -/
  scroll : Float32 := 0.0
  clicked : Bool := false

/-- The pointer as something feels it that reaches over an area. -/
def Pointer.within (pointer : Pointer) (area : Rect Float32) : Pointer :=
  { pointer with position := pointer.position.filter area.contains }

namespace App

/-- Carries out a fit that was asked for. -/
def fitIfRequested (app : App) (rect : Rect Float32) : App :=
  if app.view.fitRequested then
    { app with canvas := app.canvas.fit rect, view := { app.view with fitRequested := false } }
  else app

/-- Background, border if it is shown, and markers. -/
def shapes (app : App) (rect : Rect Float32) : List Shape :=
  let overlay := app.overlay rect
  [.fill rect (.gray (if app.view.dark then 20 else 240))] ++
    (if app.view.showContainer then [overlay.container] else []) ++
    overlay.shapes app.current app.view.selected

/-- One turn of the wheel zooms by a tenth. -/
def zoomFactor (scroll : Float32) : Float32 := if 0.0 < scroll then 1.1 else 1.0 / 1.1

/-- Moves and zooms the canvas. -/
def moveCanvas (app : App) (rect : Rect Float32) (pointer : Pointer) : App :=
  let panned := match pointer.drag with
    | some movement => app.canvas.pan movement
    | none => app.canvas
  let zoomed := match pointer.position with
    | some pos =>
      if pointer.scroll == 0.0 then panned
      else panned.zoomAt (zoomFactor pointer.scroll) pos rect
    | none => panned
  { app with canvas := zoomed }

/-- Notes where the pointer is, and selects what is clicked. -/
def point (app : App) (rect : Rect Float32) (pointer : Pointer) : App :=
  match pointer.position with
  | none => { app with view := { app.view with cursor := none } }
  | some pos =>
    let cursor := app.viewport.toEngine (app.canvas.toCanvas pos rect)
    let selected :=
      if pointer.clicked then (app.overlay rect).pick app.current pos else app.view.selected
    { app with view := { app.view with cursor := some cursor, selected } }

/--
One frame of the canvas in a part of the window: the state after it, and what it draws. The panels
are not shown then, which ends an edit.
-/
def canvasFrame (app : App) (rect : Rect Float32) (pointer : Pointer) : App × List Shape :=
  let fitted := (app.endEdit.syncViewport).fitIfRequested rect
  let felt := pointer.within rect
  ((fitted.moveCanvas rect felt).point rect felt, fitted.shapes rect)

/-- Frames one after the other. -/
def canvasFrames (app : App) (rect : Rect Float32) (pointers : List Pointer) : App :=
  pointers.foldl (fun app pointer => (app.canvasFrame rect pointer).1) app

end App

/-- What a user does with the pointer on the canvas. -/
inductive Gesture where
  | hover (pos : Point Float32)
  | scroll (pos : Point Float32) (turn : Float32)
  | click (pos : Point Float32)
  /-- A drag along points; only some buttons and keys move the canvas. -/
  | drag (points : List (Point Float32)) (moves : Bool)

namespace Gesture

/-- The movements along points, each a frame of its own. -/
def dragFrames (moves : Bool) : List (Point Float32) → List Pointer
  | p :: q :: rest =>
    { position := some q, drag := if moves then some (q - p) else none } ::
      dragFrames moves (q :: rest)
  | _ => []

/-- The frames of a gesture. A drag that does not begin on the canvas does not move it. -/
def frames (rect : Rect Float32) : Gesture → List Pointer
  | hover pos => [{ position := some pos }]
  | scroll pos turn => [{ position := some pos }, { position := some pos, scroll := turn }]
  | click pos => [{ position := some pos }, { position := some pos, clicked := true }]
  | drag [] _ => []
  | drag (p :: rest) moves =>
    { position := some p } :: dragFrames (moves && rect.contains p) (p :: rest)

end Gesture

/-- Carries out a gesture on the canvas. -/
def App.perform (app : App) (rect : Rect Float32) (gesture : Gesture) : App :=
  app.canvasFrames rect (gesture.frames rect)

end StoryMarkers
