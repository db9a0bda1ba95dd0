import StoryMarkers.App.State
import StoryMarkers.Decimal.Layout
import StoryMarkers.Decimal.Reader
import StoryMarkers.Geometry.Precision

/-!
The fields of the side panel that show the viewport size and can be typed into.

A field keeps its number within bounds while it is shown. What stands in one that is typed into is
the text it showed at first; the number becomes what that text says once the edit is finished.
-/

set_option autoImplicit false

namespace StoryMarkers

namespace SizeField

/-- Whether two numbers agree as far as single precision can tell, a few last places apart. -/
def almostEqual (a b : Float32) : Bool :=
  let margin : Float32 := 16.0 / 8388608.0
  let size := if a.abs ≤ b.abs then b.abs else a.abs
  a == b || size ≤ margin || (a - b).abs / size ≤ margin

/-- A number with as few decimals as show it, two at most. -/
def text (x : Float32) : String :=
  let value := Precision.double x
  let agrees (text : String) : Bool :=
    match Decimal.readNumeral? false text.toList with
    | some numeral => almostEqual numeral.round x
    | none => false
  if value == 0 then "0"
  else if agrees (Decimal.fixed 0 value) then Decimal.fixed 0 value
  else if agrees (Decimal.fixed 1 value) then Decimal.fixed 1 value
  else Decimal.fixed 2 value

/-- The nearest number that can be set; the greatest one replaces what is no number. -/
def limit (x : Float32) : Float32 := Scalar.greater 100.0 (Scalar.lesser 10000.0 x)

/-- The number that a text says, in single precision. -/
def number? (text : String) : Option Float32 :=
  (Decimal.readFloat? text.toList).map fun x : Float => limit (Precision.single x)

end SizeField

namespace View

def get (view : View) : Dimension → Float32
  | .width => view.size.x
  | .height => view.size.y

def set (view : View) (dimension : Dimension) (x : Float32) : View :=
  match dimension with
  | .width => { view with size := ⟨x, view.size.y⟩ }
  | .height => { view with size := ⟨view.size.x, x⟩ }

/-- The edit of a dimension, if it is the one that is typed into. -/
def edit? (view : View) (dimension : Dimension) : Option Edit :=
  view.edit.filter (·.dimension = dimension)

/-- What stands in the field of a dimension. -/
def fieldText (view : View) (dimension : Dimension) : String :=
  ((view.edit? dimension).bind (·.text)).getD (SizeField.text (view.get dimension))

/--
Shows the field of a dimension: its number is put within its bounds, which undoes what was typed
anywhere if it changes the number, and what stands in it stays there while it is typed into.
-/
def showField (view : View) (dimension : Dimension) : View :=
  let limited := SizeField.limit (view.get dimension)
  let kept := if limited == view.get dimension then view.edit
    else view.edit.map fun edit => { edit with text := none }
  let shown := { view.set dimension limited with edit := kept }
  match shown.edit? dimension with
  | some edit => { shown with edit := some { edit with text := some (shown.fieldText dimension) } }
  | none => shown

/-- The number that is typed into becomes what stands there. -/
def finishEdit (view : View) : View :=
  match view.edit with
  | some edit =>
    let x := (edit.text.bind SizeField.number?).getD (view.get edit.dimension)
    { view.set edit.dimension x with edit := none }
  | none => view

end View

namespace App

/-- Shows the viewport size, if it is unfolded. -/
def showSize (app : App) : App :=
  if app.view.unfolded then
    { app with view := (app.view.showField .width).showField .height }
  else app

/-- A press elsewhere finishes the edit of the number that is typed into. -/
def leaveEdit (app : App) (action : Option Action) : App :=
  match app.view.edit with
  | some edit =>
    if action = some (.type edit.dimension) then app
    else { app with view := app.view.finishEdit }
  | none => app

end App

end StoryMarkers
