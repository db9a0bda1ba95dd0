import StoryMarkers.Proofs.Geometry.Checked

set_option autoImplicit false

namespace StoryMarkers

namespace Viewport

section Ways

variable {α : Type} [Scalar α]

/-- Where a position of the engine lies in the window. -/
def toWindow (viewport : Viewport α) (canvas : Canvas α) (view : Rect α) (p : Point α) : Point α :=
  canvas.toScreen (viewport.flip p) view

/-- What lies at a position in the window. -/
def ofWindow (viewport : Viewport α) (canvas : Canvas α) (view : Rect α) (pos : Point α) :
    Point α :=
  viewport.flip (canvas.toCanvas pos view)

end Ways

variable {viewport : Viewport ℚ} {canvas : Canvas ℚ}

theorem flip_flip (viewport : Viewport ℚ) (p : Point ℚ) : viewport.flip (viewport.flip p) = p := by
  obtain ⟨bottomLeft, size⟩ := viewport
  cases bottomLeft with
  | false => rfl
  | true =>
      ext
      · rfl
      · exact sub_sub_cancel size.y p.y

/-- Turned upside down, the viewport covers what it covered. -/
theorem flip_mem_iff (viewport : Viewport ℚ) (p : Point ℚ) :
    (0 ≤ (viewport.flip p).y ∧ (viewport.flip p).y ≤ viewport.size.y) ↔
      (0 ≤ p.y ∧ p.y ≤ viewport.size.y) := by
  obtain ⟨bottomLeft, size⟩ := viewport
  cases bottomLeft with
  | false => rfl
  | true =>
      change (0 ≤ size.y - p.y ∧ size.y - p.y ≤ size.y) ↔ _
      rw [sub_nonneg, sub_le_self_iff, and_comm]

theorem flip_x (viewport : Viewport ℚ) (p : Point ℚ) : (viewport.flip p).x = p.x := by
  obtain ⟨bottomLeft, size⟩ := viewport
  cases bottomLeft <;> rfl

theorem flip_y_lt_iff (viewport : Viewport ℚ) (p q : Point ℚ) :
    (viewport.flip p).y < (viewport.flip q).y ↔
      if viewport.bottomLeft then q.y < p.y else p.y < q.y := by
  obtain ⟨bottomLeft, size⟩ := viewport
  cases bottomLeft with
  | false => rfl
  | true => exact sub_lt_sub_iff_left size.y

/-- What is further up in the window is further from the bottom, or nearer to the top, whichever the
engine counts from. -/
theorem toWindow_y_lt_iff (inside : canvas.InLimits) (view : Rect ℚ) (p q : Point ℚ) :
    (viewport.toWindow canvas view p).y < (viewport.toWindow canvas view q).y ↔
      if viewport.bottomLeft then q.y < p.y else p.y < q.y := by
  have scaled (low a b : ℚ) : low + a * canvas.zoom < low + b * canvas.zoom ↔ a < b := by
    rw [add_lt_add_iff_left, mul_lt_mul_iff_left₀ inside.pos]
  exact (scaled _ _ _).trans (viewport.flip_y_lt_iff p q)

/-- In a viewport 1080 pixels high, 80 pixels from the bottom are 1000 from the top. -/
example :
    let size : Point ℚ := ⟨1920, 1080⟩
    (Viewport.flip ⟨true, size⟩ ⟨100, 80⟩).y = 1000 ∧
      (Viewport.flip ⟨false, size⟩ ⟨100, 80⟩).y = 80 := by
  decide +kernel

theorem ofWindow_toWindow (inside : canvas.InLimits) (view : Rect ℚ) (p : Point ℚ) :
    viewport.ofWindow canvas view (viewport.toWindow canvas view p) = p := by
  rw [ofWindow, toWindow, canvas.toCanvas_toScreen inside, flip_flip]

theorem toWindow_ofWindow (inside : canvas.InLimits) (view : Rect ℚ) (pos : Point ℚ) :
    viewport.toWindow canvas view (viewport.ofWindow canvas view pos) = pos := by
  rw [ofWindow, toWindow, flip_flip, canvas.toScreen_toCanvas inside]

end Viewport

namespace Canvas

variable {canvas : Canvas ℚ}

theorem screenRect_max (canvas : Canvas ℚ) (view : Rect ℚ) : (canvas.screenRect view).max =
    (canvas.screenRect view).min + canvas.size.scale canvas.zoom := by
  have across (middle size : ℚ) : middle + size * canvas.zoom * 0.5 =
      middle - size * canvas.zoom * 0.5 + size * canvas.zoom := by
    ring
  exact Point.ext (across _ canvas.size.x) (across _ canvas.size.y)

/-- The border of the canvas encloses what lies on it. -/
theorem contains_toScreen_iff (inside : canvas.InLimits) (p : Point ℚ) (view : Rect ℚ) :
    (canvas.screenRect view).contains (canvas.toScreen p view) = true ↔
      (0 ≤ p.x ∧ p.x ≤ canvas.size.x) ∧ 0 ≤ p.y ∧ p.y ≤ canvas.size.y := by
  have scaled (low x length : ℚ) :
      (low ≤ low + x * canvas.zoom ∧ low + x * canvas.zoom ≤ low + length * canvas.zoom) ↔
        0 ≤ x ∧ x ≤ length := by
    rw [le_add_iff_nonneg_right, add_le_add_iff_left, mul_le_mul_iff_left₀ inside.pos,
      mul_nonneg_iff_of_pos_right inside.pos]
  rw [Rect.contains_iff, screenRect_max]
  exact and_congr (scaled _ p.x canvas.size.x) (scaled _ p.y canvas.size.y)

end Canvas

open Checked (ofRat)

/-- Engine and window correspond one to one, whatever was done to the canvas before, if the viewport
has the canvas's size. The zoom is between its limits, and nothing is divided by zero, neither on
the way to that canvas nor between engine and window: all of it comes out the same where quotients
by zero do not exist. Both pairs of ways undo each other, and a position of the engine is on the
viewport exactly if it lies within the border in the window. -/
theorem Canvas.run_maps_engine_to_window (size : Point ℚ) (moves : List (Move ℚ)) (view : Rect ℚ)
    (bottomLeft : Bool) :
    let canvas := (Canvas.ofSize size).run moves
    let viewport : Viewport ℚ := ⟨bottomLeft, canvas.size⟩
    (1 / 10 ≤ canvas.zoom ∧ canvas.zoom ≤ 10) ∧
    (Canvas.ofSize (size.map ofRat)).run (moves.map (Move.map ofRat)) = canvas.map ofRat ∧
    (∀ p : Point ℚ, (viewport.map ofRat).toWindow (canvas.map ofRat) (view.map ofRat) (p.map ofRat) =
      (viewport.toWindow canvas view p).map ofRat) ∧
    (∀ pos : Point ℚ,
      (viewport.map ofRat).ofWindow (canvas.map ofRat) (view.map ofRat) (pos.map ofRat) =
        (viewport.ofWindow canvas view pos).map ofRat) ∧
    (∀ p, canvas.toCanvas (canvas.toScreen p view) view = p) ∧
    (∀ pos, canvas.toScreen (canvas.toCanvas pos view) view = pos) ∧
    (∀ p, viewport.ofWindow canvas view (viewport.toWindow canvas view p) = p) ∧
    (∀ pos, viewport.toWindow canvas view (viewport.ofWindow canvas view pos) = pos) ∧
    ∀ p, (canvas.screenRect view).contains (viewport.toWindow canvas view p) = true ↔
      (0 ≤ p.x ∧ p.x ≤ canvas.size.x) ∧ 0 ≤ p.y ∧ p.y ≤ canvas.size.y := by
  intro canvas viewport
  have inside : canvas.InLimits := (InLimits.ofSize size).run moves
  refine ⟨inside, run_ofRat (InLimits.ofSize size) moves, ?_, ?_, ?_, ?_, ?_, ?_, ?_⟩
  · intro p
    rw [Viewport.toWindow, Viewport.flip_ofRat, toScreen_ofRat]
    rfl
  · intro pos
    rw [Viewport.ofWindow, toCanvas_ofRat inside, Viewport.flip_ofRat]
    rfl
  · exact fun p => toCanvas_toScreen inside p view
  · exact fun pos => toScreen_toCanvas inside pos view
  · exact Viewport.ofWindow_toWindow inside view
  · exact Viewport.toWindow_ofWindow inside view
  · intro p
    rw [Viewport.toWindow, contains_toScreen_iff inside, Viewport.flip_x]
    exact and_congr_right fun _ => viewport.flip_mem_iff p

end StoryMarkers
