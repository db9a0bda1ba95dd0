import StoryMarkers.App.Canvas
import StoryMarkers.App.SizeField

set_option autoImplicit false

namespace StoryMarkers

namespace Panel

def label (text : String) : Widget := { text }

def button (text : String) (action : Action) : Widget := { text, action := some action }

/-- A position without decimals. -/
def roundedPair (x y : Float) : String :=
  "(" ++ Decimal.fixed 0 x ++ ", " ++ Decimal.fixed 0 y ++ ")"

def shown (b : Bool) : String := if b then "shown" else "hidden"

/-- The bar at the top of the window. -/
def bar (app : App) : List Widget :=
  let percent := (app.canvas.zoom * 100.0).toInt32.toInt
  let counts := "Markers: " ++ toString app.current.length ++ " / " ++
    toString app.watcher.displayed.length ++ " nodes"
  let reload := match app.path with
    | some _ => [button "Reload" .reload]
    | none => []
  let status := match app.view.status with
    | some status => [label status]
    | none => []
  [label "Scene Markers", label "Open Snapshot…"] ++ reload ++
    [button "Fit View" .fit, label ("Zoom: " ++ toString percent ++ "%"), label counts] ++ status

/-- The height of the bar, which a status of several lines raises. -/
def barHeight (app : App) : Nat :=
  let lines := (app.view.status.map fun status => (Text.lines status).length).getD 0
  max Layout.headingHeight (lines * Layout.lineHeight) + 2 * Layout.inset

/-- A text on its own, which is broken into lines where there is not so much room. -/
def line (room : Nat) (text : String) : Row :=
  let height := Text.lineCount room text * Layout.lineHeight
  ⟨[{ text, width := min room (Text.width text), height }], height⟩

def heading (text : String) : Row :=
  ⟨[{ text, height := Layout.headingHeight }], Layout.headingHeight⟩

def rule : Row := ⟨[], Layout.ruleHeight⟩

/-- A text with a mark before it, `left` from where the contents begin. -/
def marked (left : Nat) (text : String) (action : Action) : Row where
  widgets := [{
    text
    action := some action
    left
    width := Text.width text + 2 * Layout.indent
    height := Layout.buttonHeight }]
  height := Layout.buttonHeight

/-- The name of a dimension and the field that it is set in. -/
def setting (app : App) (name : String) (dimension : Dimension) : Row :=
  let name : Widget := { text := name, left := Layout.indent }
  let text := app.view.fieldText dimension
  let field : Widget := {
    text
    action := some (.type dimension)
    left := name.right + Layout.gap
    width := max Layout.fieldWidth (Text.width text + 2 * Layout.padding)
    height := Layout.buttonHeight }
  ⟨[name, field], Layout.buttonHeight⟩

def settings (app : App) : List Row :=
  [setting app "Width:" .width, setting app "Height:" .height,
    marked Layout.indent "Engine origin at bottom-left" .toggleOrigin,
    marked Layout.indent "Show viewport border" .toggleContainer,
    marked Layout.indent "Dark mode" .toggleDark]

/-- The height of all the settings. -/
def settingsHeight (app : App) : Nat := Row.stackHeight (settings app) - Layout.gap

/--
The height of the settings in the update that turns them: a fifth of the way is gone then, but of
settings that were never shown the height is not known yet.
-/
def turningHeight (app : App) : Nat :=
  if ¬ app.view.unfolded then settingsHeight app * 4 / 5
  else if app.view.unfoldedOnce then settingsHeight app / 5
  else Layout.firstHeight

def viewport (app : App) : List Row :=
  marked 0 "Viewport" .fold ::
    match app.view.turning with
    | some height => [⟨[], height⟩]
    | none => if app.view.unfolded then settings app else []

/-- The width of the contents of the side panel, unless something in it is too wide. -/
def innerWidth (app : App) : Nat :=
  app.view.panelWidth - 2 * Layout.margin - app.view.panel.bar

def cursor (app : App) : List Row :=
  let text := match app.view.cursor with
    | some (x, y) => roundedPair x y
    | none => "-"
  [heading "Cursor", line (innerWidth app) text]

/-- The rows before the list of markers. -/
def rowsAbove (app : App) : List Row :=
  viewport app ++ [rule] ++ cursor app ++ [rule, heading "Visible Markers"]

/-- A marker's name, its position, and a button that copies the position. -/
def markerRow (marker : Marker) : Row :=
  let (x, y) := marker.xy
  let lines := (Text.lines marker.identifier).length
  let height := max Layout.buttonHeight (lines * Layout.lineHeight + 2)
  let name : Widget := {
    text := marker.identifier
    action := some (.select marker.key)
    width := Text.width marker.identifier + 2 * Layout.padding
    height }
  let position : Widget := { text := roundedPair x y, left := name.right + Layout.gap }
  let copy : Widget := {
    text := "Copy"
    action := some (.copy (Decimal.plain x ++ ", " ++ Decimal.plain y))
    left := position.right + Layout.gap
    width := Text.width "Copy" + 2 * Layout.padding
    height := Layout.buttonHeight }
  ⟨[name, position, copy], height⟩

/-- The list of markers. -/
def markerRows (app : App) : List Row := app.current.map markerRow

/-- The width of the list of markers. -/
def listWidth (app : App) : Nat :=
  Row.stackWidth (markerRows app) + app.view.list.bar

def propertyText (p : Property) : String :=
  p.uri ++ " = " ++ p.value ++ " (" ++ toString p.listeners.toNat ++ " listeners)"

def details (app : App) (room : Nat) (marker : Marker) : List Row :=
  let nodes := app.watcher.displayed.filter (·.identifier = marker.identifier)
  let info := match marker.planet with
    | some planet => [rule, line room planet.info]
    | none => []
  [line room ("Identifier: " ++ marker.identifier),
    line room ("Size: " ++ Decimal.fixed 2 marker.size),
    line room ("Screen radius: " ++ Decimal.fixed 1 marker.radius),
    line room ("Label: " ++ shown marker.showsLabel),
    line room ("Info: " ++ shown marker.showsInfo)] ++
    (Command.tracked nodes).map (fun p => line room (propertyText p)) ++ info

/-- The rows after the list of markers, which have as much room as that list takes. -/
def rowsBelow (app : App) : List Row :=
  let room := max (innerWidth app) (listWidth app)
  [rule, heading "Selected"] ++
    match app.selectedMarker? with
    | some marker => details app room marker
    | none => [line room "Click a marker to inspect it"]

def left (app : App) : Nat := Layout.contentLeft app.view.panelWidth

def top (app : App) : Nat := barHeight app + Layout.inset

/-- Where the panel ends at the right, before any scroll bar. -/
def right (app : App) : Nat := Layout.windowWidth - Layout.margin - app.view.panel.bar

/-- Where the list of markers ends at the right, before any scroll bar. -/
def listRight (app : App) : Nat := right app - app.view.list.bar

/-- What is left of the height of the window below a line. -/
def roomBelow (top : Nat) : Nat :=
  max Layout.leastHeight (Layout.windowHeight - Layout.inset - top)

def listTop (app : App) : Nat := top app + Row.stackHeight (rowsAbove app)

/-- The height that the list of markers may take. -/
def listRoom (app : App) : Nat := min Layout.listHeight (roomBelow (listTop app))

/-- The height that the list of markers would take. -/
def listLength (app : App) : Nat := Row.stackHeight (markerRows app) - Layout.gap

def topBelow (app : App) : Nat := listTop app + min (listRoom app) (listLength app) + Layout.gap

/-- The height that all of the panel would take. -/
def length (app : App) : Nat :=
  topBelow app + Row.stackHeight (rowsBelow app) - Layout.gap - top app

/-- How far the contents of the panel show. -/
def extent (app : App) : Extent :=
  if app.view.panel.long then
    ({} : Extent).meet (.beyond (right app) (top app + roomBelow (top app)))
  else { right := Layout.windowWidth - app.view.panel.bar }

/-- How far the list of markers shows. -/
def listExtent (app : App) : Extent :=
  if app.view.list.long then
    (extent app).meet (.beyond (listRight app) (listTop app + listRoom app))
  else { extent app with right := (extent app).right - app.view.list.bar }

/-- The widgets of the side panel from top to bottom. -/
def placed (app : App) : List Placed :=
  Row.placeAll (left app) (extent app) (top app) (rowsAbove app) ++
    Row.placeAll (left app) (listExtent app) (listTop app) (markerRows app) ++
    Row.placeAll (left app) (extent app) (topBelow app) (rowsBelow app)

def painted (app : App) : List Placed := (placed app).filter (·.isPainted)

/-- The texts that are painted, from top to bottom. -/
def texts (app : App) : List String :=
  (bar app).map (·.text) ++ (painted app).map (·.widget.text)

/-- What is too long, and so can be dragged by any point of it. -/
def dragged (app : App) : List (Rect Float32) :=
  let panel := Layout.area (left app) (top app) (right app) (top app + roomBelow (top app))
  let list := Layout.area (left app) (listTop app) (listRight app)
    (listTop app + listRoom app)
  (if app.view.panel.long then [panel] else []) ++ if app.view.list.long then [list] else []

def canvasRect (app : App) : Rect Float32 := Layout.canvasRect app.view.panelWidth (barHeight app)

/-- Notes how much room the panel and the list of markers take. -/
def measure (app : App) : View :=
  let wanted := listWidth app + app.view.panel.bar + 2 * Layout.margin
  { app.view with
    turning := none
    panelWidth := min Layout.windowWidth (max app.view.panelWidth wanted)
    panel := app.view.panel.next (roomBelow (top app) < length app)
    list := app.view.list.next (listRoom app < listLength app) }

end Panel

end StoryMarkers
