import StoryMarkers.Geometry.Basic

set_option autoImplicit false

namespace StoryMarkers

/-- A colour whose parts are already multiplied by its alpha. -/
structure Color where
  red : UInt8
  green : UInt8
  blue : UInt8
  alpha : UInt8 := 255
deriving DecidableEq, Repr

namespace Color

def gray (level : UInt8) : Color := ⟨level, level, level, 255⟩

/-- Lets the colour fade, all four parts by the same factor. -/
def fade (color : Color) (factor : Float32) : Color :=
  let part (c : UInt8) : UInt8 := (c.toFloat32 * factor + 0.5).toUInt8
  ⟨part color.red, part color.green, part color.blue, part color.alpha⟩

end Color

/-- Which point of the left side of a text its position is. -/
inductive Anchor where
  | middle
  | top
deriving DecidableEq, Repr

inductive Shape where
  | dot (center : Point Float32) (radius : Float32) (color : Color)
  | ring (center : Point Float32) (radius width : Float32) (color : Color)
  | border (rect : Rect Float32) (width : Float32) (color : Color)
  | fill (rect : Rect Float32) (color : Color)
  | text (content : String) (pos : Point Float32) (anchor : Anchor) (font : Float32) (color : Color)

def Shape.text? : Shape → Option String
  | .text content .. => some content
  | _ => none

end StoryMarkers
