import StoryMarkers.Geometry.Basic
import StoryMarkers.Text.Lines

/-!
What the panels of the window are made of, and how they are laid out.

The side panel stands at the right of the window and shows one row below the other; the canvas
takes what it leaves. Panel and list of markers each show no more than fits their height, as they
were found too long in an update before. A row of several widgets is never broken: one that is too
wide widens the panel from the next update on, up to the whole window. A widget is painted if it
begins before the end of what it stands in, and feels only presses that lie in there.
-/

set_option autoImplicit false

namespace StoryMarkers

/-- The two numbers that a size consists of. -/
inductive Dimension where
  | width
  | height
deriving DecidableEq, Repr

inductive Action where
  | reload
  | fit
  | fold
  | type (dimension : Dimension)
  | toggleOrigin
  | toggleContainer
  | toggleDark
  | select (key : String)
  | copy (text : String)
deriving DecidableEq, Repr

namespace Layout

def windowWidth : Nat := 1600

def windowHeight : Nat := 1200

/-- The width of the side panel before anything has widened it. -/
def panelStart : Nat := 280

/-- Space between the sides of a panel and its contents. -/
def margin : Nat := 8

/-- Space above and below the contents of a panel. -/
def inset : Nat := 2

/-- Space between rows, and between the widgets of a row. -/
def gap : Nat := 10

/-- Space between the sides of a button and its text. -/
def padding : Nat := 4

/-- How far a mark stands before a text, and the rows below a folding header to its right. -/
def indent : Nat := 18

def lineHeight : Nat := 14

def headingHeight : Nat := 21

def buttonHeight : Nat := 18

def fieldWidth : Nat := 40

def ruleHeight : Nat := 6

/-- The height that the list of markers is confined to. -/
def listHeight : Nat := 320

/-- The height that something too long keeps where there is no room. -/
def leastHeight : Nat := 64

/-- The width of a scroll bar, which stands beside the contents of what was too long. -/
def scrollBar : Nat := 12

/-- The width of a scroll bar in the first update without it, where it still goes away. -/
def goingBar : Nat := 10

/-- The width of a scroll bar that comes back right after it went away. -/
def comingBar : Nat := 3

/-- The height of settings that are unfolded for the first time, in that update. -/
def firstHeight : Nat := 10

/-- How far the contents of something too long show beyond its ends. -/
def overhang : Nat := 3

/-- How far from its sides something still feels the pointer. -/
def reach : Float32 := 4.5

/-- The part of the window that begins at two numbers and ends at two others. -/
def area (left top right bottom : Nat) : Rect Float32 :=
  ⟨⟨left.toFloat32, top.toFloat32⟩, ⟨right.toFloat32, bottom.toFloat32⟩⟩

/-- The part of the window in which something with a given area feels the pointer. -/
def feeling (rect : Rect Float32) : Rect Float32 :=
  ⟨rect.min - ⟨reach, reach⟩, rect.max + ⟨reach, reach⟩⟩

/-- Where the contents of the side panel begin. -/
def contentLeft (panelWidth : Nat) : Nat := windowWidth - panelWidth + margin

/-- The part of the window that the bar at the top and the side panel leave to the canvas. -/
def canvasRect (panelWidth barHeight : Nat) : Rect Float32 :=
  area margin (barHeight + margin) (max margin (windowWidth - panelWidth - margin))
    (windowHeight - margin)

end Layout

/-- A text, in the middle of the area that it takes of its row. -/
structure Widget where
  text : String
  action : Option Action := none
  left : Nat := 0
  width : Nat := Text.width text
  height : Nat := Layout.lineHeight
deriving Repr

def Widget.right (widget : Widget) : Nat := widget.left + widget.width

/-- Widgets beside each other, each halfway up the row. -/
structure Row where
  widgets : List Widget := []
  height : Nat
deriving Repr

namespace Row

def width (row : Row) : Nat := (row.widgets.map Widget.right).foldl max 0

/-- The height of rows above each other, with a gap after each. -/
def stackHeight (rows : List Row) : Nat :=
  (rows.map fun row => row.height + Layout.gap).foldr (· + ·) 0

/-- The width of the widest row. -/
def stackWidth (rows : List Row) : Nat := (rows.map width).foldl max 0

end Row

/-- What the updates before have left of something that may be too long. -/
structure Scrolled where
  /-- Whether it was too long at the latest update. -/
  long : Bool := false
  /-- The width that its scroll bar takes. -/
  bar : Nat := 0
deriving Repr

namespace Scrolled

/-- What an update leaves. A scroll bar takes an update more to go away than to come. -/
def next (scrolled : Scrolled) (long : Bool) : Scrolled where
  long
  bar :=
    if long then if scrolled.bar = Layout.goingBar then Layout.comingBar else Layout.scrollBar
    else if scrolled.bar = Layout.scrollBar ∨ scrolled.bar = Layout.comingBar then Layout.goingBar
    else 0

end Scrolled

/-- How far to the right and down the contents of something show. -/
structure Extent where
  right : Nat := Layout.windowWidth
  bottom : Nat := Layout.windowHeight

namespace Extent

def meet (a b : Extent) : Extent := ⟨min a.right b.right, min a.bottom b.bottom⟩

/-- Contents that were too long end a little after the right and the bottom given. -/
def beyond (right bottom : Nat) : Extent := ⟨right + Layout.overhang, bottom + Layout.overhang⟩

end Extent

/-- A widget at its place in the window. -/
structure Placed where
  widget : Widget
  left : Nat
  top : Nat
  extent : Extent

namespace Placed

def rect (placed : Placed) : Rect Float32 :=
  Layout.area placed.left placed.top (placed.left + placed.widget.width)
    (placed.top + placed.widget.height)

/-- Whether the widget begins before the end of what it stands in. -/
def isPainted (placed : Placed) : Bool :=
  placed.left ≤ placed.extent.right ∧ placed.top ≤ placed.extent.bottom

/-- Whether the widget feels a press at `pos`. -/
def covers (placed : Placed) (pos : Point Float32) : Bool :=
  (Layout.feeling placed.rect).contains pos ∧
    pos.x ≤ placed.extent.right.toFloat32 ∧ pos.y ≤ placed.extent.bottom.toFloat32

end Placed

/-- The widgets of a row whose upper left corner is given. -/
def Row.place (row : Row) (left top : Nat) (extent : Extent) : List Placed :=
  row.widgets.map fun widget =>
    ⟨widget, left + widget.left, top + (row.height - widget.height) / 2, extent⟩

/-- The widgets of rows above each other, from the upper left corner of the first. -/
def Row.placeAll (left : Nat) (extent : Extent) : Nat → List Row → List Placed
  | _, [] => []
  | top, row :: rest =>
    row.place left top extent ++ placeAll left extent (top + row.height + Layout.gap) rest

end StoryMarkers
