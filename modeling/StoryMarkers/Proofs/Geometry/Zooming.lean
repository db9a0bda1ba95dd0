import StoryMarkers.Proofs.Geometry.Rational

/-!
Zooming at a position. The canvas stretches away from the position by the ratio of the zooms, as far
as the limits let it, so what lies there stays there. Hence where the canvas ends up depends on the
last zoom alone, however it was reached.
-/

set_option autoImplicit false

namespace StoryMarkers.Canvas

variable {canvas other : Canvas ℚ}

/-- How far a position in the window is from the middle of the canvas. -/
def fromMiddle (canvas : Canvas ℚ) (pos : Point ℚ) (view : Rect ℚ) : Point ℚ :=
  pos - (view.center + canvas.offset)

theorem toCanvas_eq (inside : canvas.InLimits) (pos : Point ℚ) (view : Rect ℚ) :
    canvas.toCanvas pos view =
      (canvas.fromMiddle pos view).shrink canvas.zoom + canvas.size.shrink 2 := by
  have nonzero : canvas.zoom ≠ 0 := inside.pos.ne'
  have halved (pos middle size : ℚ) : (pos - (middle - size * canvas.zoom * 0.5)) / canvas.zoom =
      (pos - middle) / canvas.zoom + size / 2 := by
    field_simp
    ring
  exact Point.ext (halved pos.x (view.center.x + canvas.offset.x) canvas.size.x)
    (halved pos.y (view.center.y + canvas.offset.y) canvas.size.y)

/-- A position other than the middle moves away from it by the ratio of the zooms. -/
theorem fromMiddle_zoomAt (canvas : Canvas ℚ) (factor : ℚ) (pos : Point ℚ) (view : Rect ℚ) :
    (canvas.zoomAt factor pos view).fromMiddle pos view =
      (canvas.fromMiddle pos view).scale
        ((canvas.zoomAt factor pos view).zoom / canvas.zoom) := by
  have stretched (pos middle offset ratio : ℚ) :
      pos - (middle + (offset - (pos - (middle + offset)) * (ratio - 1.0))) =
        (pos - (middle + offset)) * ratio := by
    norm_num
    ring
  exact Point.ext (stretched pos.x view.center.x canvas.offset.x _)
    (stretched pos.y view.center.y canvas.offset.y _)

/-- What lies at the position stays there, whether or not the new zoom had to be limited. -/
theorem toCanvas_zoomAt (inside : canvas.InLimits) (factor : ℚ) (pos : Point ℚ) (view : Rect ℚ) :
    (canvas.zoomAt factor pos view).toCanvas pos view = canvas.toCanvas pos view := by
  have zoomed := InLimits.zoomAt canvas factor pos view
  have before : canvas.zoom ≠ 0 := inside.pos.ne'
  have after : (canvas.zoomAt factor pos view).zoom ≠ 0 := zoomed.pos.ne'
  have cancelled (distance : ℚ) :
      distance * ((canvas.zoomAt factor pos view).zoom / canvas.zoom) /
        (canvas.zoomAt factor pos view).zoom = distance / canvas.zoom := by
    field_simp
  have same : ((canvas.zoomAt factor pos view).fromMiddle pos view).shrink
      (canvas.zoomAt factor pos view).zoom = (canvas.fromMiddle pos view).shrink canvas.zoom := by
    rw [fromMiddle_zoomAt]
    exact Point.ext (cancelled _) (cancelled _)
  rw [toCanvas_eq zoomed, toCanvas_eq inside, same]
  rfl

/-- Size, zoom and what lies at one position leave no choice of the offset. -/
theorem eq_of_toCanvas_eq (inside : canvas.InLimits) {pos : Point ℚ} {view : Rect ℚ}
    (size : canvas.size = other.size) (zoom : canvas.zoom = other.zoom)
    (same : canvas.toCanvas pos view = other.toCanvas pos view) : canvas = other := by
  have inside' : other.InLimits := ⟨zoom ▸ inside.1, zoom ▸ inside.2⟩
  rw [toCanvas_eq inside, toCanvas_eq inside', size, zoom] at same
  have determined {pos middle offset offset' half : ℚ}
      (same : (pos - (middle + offset)) / other.zoom + half =
        (pos - (middle + offset')) / other.zoom + half) : offset = offset' := by
    rw [add_left_inj, div_left_inj' inside'.pos.ne'] at same
    linarith
  have offset : canvas.offset = other.offset :=
    Point.ext (determined (congrArg Point.x same)) (determined (congrArg Point.y same))
  obtain ⟨_, _, _⟩ := canvas
  obtain ⟨_, _, _⟩ := other
  cases size
  cases zoom
  cases offset
  rfl

/-- Zooms several times at one position. -/
def zoomAll (canvas : Canvas ℚ) (factors : List ℚ) (pos : Point ℚ) (view : Rect ℚ) : Canvas ℚ :=
  canvas.run (factors.map fun factor => .zoomAt factor pos view)

theorem zoomAll_cons (canvas : Canvas ℚ) (factor : ℚ) (factors : List ℚ) (pos : Point ℚ)
    (view : Rect ℚ) : canvas.zoomAll (factor :: factors) pos view =
      (canvas.zoomAt factor pos view).zoomAll factors pos view := rfl

theorem size_zoomAll (canvas : Canvas ℚ) (factors : List ℚ) (pos : Point ℚ) (view : Rect ℚ) :
    (canvas.zoomAll factors pos view).size = canvas.size := by
  induction factors generalizing canvas with
  | nil => rfl
  | cons factor rest ih => rw [zoomAll_cons, ih, zoomAt]

theorem toCanvas_zoomAll (inside : canvas.InLimits) (factors : List ℚ) (pos : Point ℚ)
    (view : Rect ℚ) :
    (canvas.zoomAll factors pos view).toCanvas pos view = canvas.toCanvas pos view := by
  induction factors generalizing canvas with
  | nil => rfl
  | cons factor rest ih =>
      rw [zoomAll_cons, ih (InLimits.zoomAt canvas factor pos view), toCanvas_zoomAt inside]

/-- Zooming at a position keeps what lies there, from any canvas that can be reached, by any factor
and also where the zoom is limited, and so does zooming there any number of times. If two such ways
end at the same zoom, they end with the same offset: with the same canvas. -/
theorem run_zooms_around_position (size : Point ℚ) (moves : List (Move ℚ)) (pos : Point ℚ)
    (view : Rect ℚ) :
    let canvas := (Canvas.ofSize size).run moves
    (∀ factor, (canvas.zoomAt factor pos view).toCanvas pos view = canvas.toCanvas pos view) ∧
    (∀ factors, (canvas.zoomAll factors pos view).toCanvas pos view = canvas.toCanvas pos view) ∧
    ∀ factors others, (canvas.zoomAll factors pos view).zoom = (canvas.zoomAll others pos view).zoom →
      canvas.zoomAll factors pos view = canvas.zoomAll others pos view := by
  intro canvas
  have inside : canvas.InLimits := (InLimits.ofSize size).run moves
  refine ⟨fun factor => toCanvas_zoomAt inside factor pos view,
    fun factors => toCanvas_zoomAll inside factors pos view, ?_⟩
  intro factors others zoom
  have size : (canvas.zoomAll factors pos view).size = (canvas.zoomAll others pos view).size := by
    rw [size_zoomAll, size_zoomAll]
  have same : (canvas.zoomAll factors pos view).toCanvas pos view =
      (canvas.zoomAll others pos view).toCanvas pos view := by
    rw [toCanvas_zoomAll inside, toCanvas_zoomAll inside]
  exact eq_of_toCanvas_eq (inside.run _) size zoom same

/-- Twice beyond the upper limit and back to a quarter, or to a quarter at once. -/
theorem quarter_by_two_ways :
    let canvas := (Canvas.ofSize ⟨200, 100⟩).run [.pan ⟨30, -12⟩, .fit ⟨⟨0, 0⟩, ⟨0, 0⟩⟩, .pan ⟨7, 0⟩]
    let pos : Point ℚ := ⟨3, 40⟩
    let view : Rect ℚ := ⟨⟨0, 0⟩, ⟨80, 60⟩⟩
    (canvas.zoomAll [1000, 3] pos view).zoom = 10 ∧
      (canvas.zoomAll [1000, 3, 1 / 40] pos view).zoom = 1 / 4 ∧
      (canvas.zoomAll [5 / 2] pos view).zoom = 1 / 4 ∧
      canvas.zoomAll [1000, 3, 1 / 40] pos view = canvas.zoomAll [5 / 2] pos view := by
  intro canvas pos view
  obtain ⟨-, -, ends⟩ := run_zooms_around_position ⟨200, 100⟩
    [.pan ⟨30, -12⟩, .fit ⟨⟨0, 0⟩, ⟨0, 0⟩⟩, .pan ⟨7, 0⟩] pos view
  have far : (canvas.zoomAll [1000, 3, 1 / 40] pos view).zoom = 1 / 4 := by decide +kernel
  have near : (canvas.zoomAll [5 / 2] pos view).zoom = 1 / 4 := by decide +kernel
  exact ⟨by decide +kernel, far, near, ends _ _ (far.trans near.symm)⟩

end StoryMarkers.Canvas
