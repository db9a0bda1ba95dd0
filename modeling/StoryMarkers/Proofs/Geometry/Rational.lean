import Mathlib.Algebra.Order.Field.Rat
import Mathlib.Tactic.FieldSimp
import Mathlib.Tactic.Linarith
import Mathlib.Tactic.Ring
import StoryMarkers.Geometry.Canvas

set_option autoImplicit false

namespace StoryMarkers

instance : Scalar ℚ where
  decLE := inferInstance
  decLT := inferInstance

theorem Rect.contains_iff {r : Rect ℚ} {p : Point ℚ} : r.contains p = true ↔
    (r.min.x ≤ p.x ∧ p.x ≤ r.max.x) ∧ r.min.y ≤ p.y ∧ p.y ≤ r.max.y := by
  rw [contains, decide_eq_true_eq, and_assoc]

namespace Canvas

/-- What can be done to a canvas. -/
inductive Move (α : Type) where
  | setSize (size : Point α)
  | pan (movement : Point α)
  | zoomAt (factor : α) (pos : Point α) (view : Rect α)
  | fit (view : Rect α)

section Moves

variable {α : Type} [Scalar α]

def move (canvas : Canvas α) : Move α → Canvas α
  | .setSize size => canvas.setSize size
  | .pan movement => canvas.pan movement
  | .zoomAt factor pos view => canvas.zoomAt factor pos view
  | .fit view => canvas.fit view

def run (canvas : Canvas α) (moves : List (Move α)) : Canvas α := moves.foldl move canvas

end Moves

theorem minZoom_eq : (minZoom : ℚ) = 1 / 10 := by
  rw [minZoom]
  norm_num

theorem maxZoom_eq : (maxZoom : ℚ) = 10 := by
  rw [maxZoom]
  norm_num

/-- Whether the zoom lies between its limits. -/
def InLimits (canvas : Canvas ℚ) : Prop := 1 / 10 ≤ canvas.zoom ∧ canvas.zoom ≤ 10

theorem limitZoom_mem (zoom : ℚ) : 1 / 10 ≤ limitZoom zoom ∧ limitZoom zoom ≤ 10 := by
  rw [limitZoom, minZoom_eq, maxZoom_eq, Scalar.clamp]
  split
  · norm_num
  · split
    · norm_num
    · constructor <;> linarith

variable {canvas : Canvas ℚ}

namespace InLimits

theorem pos (inside : canvas.InLimits) : 0 < canvas.zoom :=
  lt_of_lt_of_le (by norm_num) inside.1

theorem ofSize (size : Point ℚ) : (Canvas.ofSize size).InLimits := by
  rw [InLimits, Canvas.ofSize]
  norm_num

theorem zoomAt (canvas : Canvas ℚ) (factor : ℚ) (pos : Point ℚ) (view : Rect ℚ) :
    (canvas.zoomAt factor pos view).InLimits :=
  limitZoom_mem _

/-- A fit of what has no size leaves the zoom as it is. -/
theorem fit (inside : canvas.InLimits) (view : Rect ℚ) : (canvas.fit view).InLimits := by
  rw [Canvas.fit]
  split
  · exact inside
  · exact limitZoom_mem _

theorem move (inside : canvas.InLimits) (move : Move ℚ) : (canvas.move move).InLimits := by
  cases move with
  | setSize size => exact inside
  | pan movement => exact inside
  | zoomAt factor pos view => exact zoomAt canvas factor pos view
  | fit view => exact inside.fit view

theorem run (inside : canvas.InLimits) (moves : List (Move ℚ)) : (canvas.run moves).InLimits := by
  induction moves generalizing canvas with
  | nil => exact inside
  | cons first rest ih => exact ih (inside.move first)

end InLimits

theorem toCanvas_toScreen (inside : canvas.InLimits) (pos : Point ℚ) (view : Rect ℚ) :
    canvas.toCanvas (canvas.toScreen pos view) view = pos := by
  have nonzero : canvas.zoom ≠ 0 := inside.pos.ne'
  have undone (least x : ℚ) : (least + x * canvas.zoom - least) / canvas.zoom = x := by
    rw [add_sub_cancel_left, mul_div_cancel_right₀ _ nonzero]
  exact Point.ext (undone _ pos.x) (undone _ pos.y)

theorem toScreen_toCanvas (inside : canvas.InLimits) (pos : Point ℚ) (view : Rect ℚ) :
    canvas.toScreen (canvas.toCanvas pos view) view = pos := by
  have nonzero : canvas.zoom ≠ 0 := inside.pos.ne'
  have undone (least x : ℚ) : least + (x - least) / canvas.zoom * canvas.zoom = x := by
    rw [div_mul_cancel₀ _ nonzero, add_sub_cancel]
  exact Point.ext (undone _ pos.x) (undone _ pos.y)

end Canvas

end StoryMarkers
