import StoryMarkers.App.Panel

set_option autoImplicit false

namespace StoryMarkers

/-- Where the button of the mouse goes down: on the bar, or at a point below it. -/
inductive Place where
  | bar (action : Option Action)
  | below (pos : Point Float32)
deriving Repr

/-- What the mouse does during an update. -/
inductive Mouse where
  | away
  | down (place : Place)
  | up (place : Place)
deriving Repr

namespace Place

/-- What a press sets off in the panels. -/
def action? (app : App) : Place → Option Action
  | bar action => action
  | below pos => ((Panel.placed app).filter (·.covers pos)).findSome? (·.widget.action)

/-- The places of the texts in the panels that are painted and read `text`. -/
def ofText (app : App) (text : String) : List Place :=
  ((Panel.bar app).filter (·.text = text)).map (fun widget => bar widget.action) ++
    ((Panel.painted app).filter (·.widget.text = text)).map fun placed => below placed.rect.center

/--
Whether something that can be dragged takes hold of the mouse: the canvas, a panel that is too long,
or a field that is not typed into.
-/
def grabs (app : App) : Place → Bool
  | bar _ => false
  | below pos =>
    (Panel.dragged app).any (fun rect => (Layout.feeling rect).contains pos) ||
      (Layout.feeling (Panel.canvasRect app)).contains pos ||
      match action? app (below pos) with
      | some (.type dimension) => (app.view.edit? dimension).isNone
      | _ => false

end Place

/-- The pointer as the canvas feels it. -/
def Mouse.pointer (app : App) : Mouse → Pointer
  | up (.below pos) =>
    { position := some pos, clicked := true : Pointer }.within
      (Layout.feeling (Panel.canvasRect app))
  | _ => {}

namespace App

/-- Unfolds the viewport settings or folds them away, for this update only in part. -/
def turn (app : App) : App :=
  let turned := { app with view := { app.view with unfolded := !app.view.unfolded } }
  let view := turned.view
  { turned with view := { view with
    unfoldedOnce := true
    turning := some (Panel.turningHeight turned) } }

def act (app : App) (files : Files) : Action → App
  | .reload =>
    match app.path with
    | some path => app.load files path
    | none => app
  | .fit => { app with view := { app.view with fitRequested := true } }
  | .fold => app.turn.showSize
  | .type dimension =>
    match app.view.edit? dimension with
    | some _ => app
    | none => { app with view := { app.view with edit := some { dimension } } }
  | .toggleOrigin => { app with view := { app.view with bottomLeft := !app.view.bottomLeft } }
  | .toggleContainer =>
    { app with view := { app.view with showContainer := !app.view.showContainer } }
  | .toggleDark => { app with view := { app.view with dark := !app.view.dark } }
  | .select key => { app with view := { app.view with selected := some key } }
  | .copy text => app.copy text

/-- What the panels make of the mouse. An edit is lost to whatever else can be dragged. -/
def respond (app : App) (files : Files) : Mouse → App
  | .away => app
  | .down place => if place.grabs app then app.endEdit else app
  | .up place =>
    let action := place.action? app
    let left := app.leaveEdit action
    match action with
    | some action => left.act files action
    | none => left

/-- The state that the panels show in an update. -/
def refreshed (app : App) : App := app.syncViewport.refresh.showSize

/-- One update of the whole window: refresh, panels with what is pressed in them, and canvas. -/
def update (app : App) (mouse : Mouse) (files : Files) : App × List String :=
  let shown := app.refreshed
  let acted := shown.respond files mouse
  let rect := Panel.canvasRect acted
  let fitted := acted.fitIfRequested rect
  let texts := Panel.texts shown ++ (fitted.shapes rect).filterMap Shape.text?
  ({ fitted with view := Panel.measure fitted }.point rect (mouse.pointer shown), texts)

/--
Presses the n-th text that reads `text`, which takes four updates: the text is found in the first
one, the mouse moves there, and its button goes down and up. The second result tells whether there
is such a text.
-/
def press (app : App) (text : String) (index : Nat) (files : Files) : App × Bool :=
  let (first, texts) := app.update .away files
  if (texts.filter (· = text)).length ≤ index then (first, false)
  else
    let second := (first.update .away files).1
    match (Place.ofText app.refreshed text)[index]? with
    | some place => (((second.update (.down place) files).1.update (.up place) files).1, true)
    | none => (((second.update .away files).1.update .away files).1, true)

end App

end StoryMarkers
