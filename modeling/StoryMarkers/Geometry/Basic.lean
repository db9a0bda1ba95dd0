import StoryMarkers.Geometry.Scalar

set_option autoImplicit false

namespace StoryMarkers

/-- A position, a size or a movement. -/
@[ext]
structure Point (α : Type) where
  x : α
  y : α
deriving Repr

@[ext]
structure Rect (α : Type) where
  min : Point α
  max : Point α
deriving Repr

variable {α : Type} [Scalar α]

namespace Point

instance : Add (Point α) := ⟨fun p q => ⟨p.x + q.x, p.y + q.y⟩⟩

instance : Sub (Point α) := ⟨fun p q => ⟨p.x - q.x, p.y - q.y⟩⟩

/-- Both coordinates times a factor. -/
def scale (p : Point α) (factor : α) : Point α := ⟨p.x * factor, p.y * factor⟩

/-- Both coordinates divided by a number. -/
def shrink (p : Point α) (divisor : α) : Point α := ⟨p.x / divisor, p.y / divisor⟩

def origin : Point α := ⟨0.0, 0.0⟩

@[simp] theorem add_x (p q : Point α) : (p + q).x = p.x + q.x := rfl

@[simp] theorem add_y (p q : Point α) : (p + q).y = p.y + q.y := rfl

@[simp] theorem sub_x (p q : Point α) : (p - q).x = p.x - q.x := rfl

@[simp] theorem sub_y (p q : Point α) : (p - q).y = p.y - q.y := rfl

end Point

namespace Rect

def width (r : Rect α) : α := r.max.x - r.min.x

def height (r : Rect α) : α := r.max.y - r.min.y

def center (r : Rect α) : Point α := (r.min + r.max).shrink 2.0

def ofCenterSize (center size : Point α) : Rect α :=
  ⟨center - size.scale 0.5, center + size.scale 0.5⟩

def contains (r : Rect α) (p : Point α) : Bool :=
  r.min.x ≤ p.x ∧ p.x ≤ r.max.x ∧ r.min.y ≤ p.y ∧ p.y ≤ r.max.y

end Rect

end StoryMarkers
