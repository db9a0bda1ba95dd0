import StoryMarkers.Proofs.Geometry.Rational

set_option autoImplicit false

namespace StoryMarkers

theorem Scalar.le_lesser_iff {x a b : ℚ} : x ≤ lesser a b ↔ x ≤ a ∧ x ≤ b := by
  have least : lesser a b = min a b := by
    simp only [lesser, le_refl, not_true_eq_false, or_false]
    rfl
  rw [least, le_min_iff]

namespace Rect

/-- Whether all of another rectangle lies in this one. -/
def encloses {α : Type} [Scalar α] (r other : Rect α) : Bool :=
  r.contains other.min && r.contains other.max

theorem center_ofCenterSize (center size : Point ℚ) :
    (ofCenterSize center size).center = center := by
  have halved (middle size : ℚ) :
      (middle - size * 0.5 + (middle + size * 0.5)) / 2.0 = middle := by
    norm_num
  exact Point.ext (halved center.x size.x) (halved center.y size.y)

theorem width_ofCenterSize (center size : Point ℚ) : (ofCenterSize center size).width = size.x := by
  change center.x + size.x * 0.5 - (center.x - size.x * 0.5) = size.x
  ring

theorem height_ofCenterSize (center size : Point ℚ) :
    (ofCenterSize center size).height = size.y := by
  change center.y + size.y * 0.5 - (center.y - size.y * 0.5) = size.y
  ring

/-- What lies in the middle of a view lies inside it if it is neither wider nor higher. -/
theorem encloses_ofCenterSize_iff {view : Rect ℚ} {size : Point ℚ} (wide : 0 ≤ size.x)
    (high : 0 ≤ size.y) : view.encloses (ofCenterSize view.center size) = true ↔
      size.x ≤ view.width ∧ size.y ≤ view.height := by
  have inside (low high : ℚ) {size : ℚ} (nonneg : 0 ≤ size) :
      ((low ≤ (low + high) / 2.0 - size * 0.5 ∧ (low + high) / 2.0 - size * 0.5 ≤ high) ∧
        low ≤ (low + high) / 2.0 + size * 0.5 ∧ (low + high) / 2.0 + size * 0.5 ≤ high) ↔
      size ≤ high - low := by
    norm_num
    constructor
    · rintro ⟨⟨left, -⟩, -, -⟩
      linarith
    · intro narrow
      refine ⟨⟨?_, ?_⟩, ?_, ?_⟩ <;> linarith
  have across := inside view.min.x view.max.x wide
  have down := inside view.min.y view.max.y high
  rw [width, height, ← across, ← down, encloses, Bool.and_eq_true, contains_iff, contains_iff,
    and_and_and_comm]
  rfl

end Rect

namespace Canvas

/-- The zoom at which a canvas is as wide or as high as the view, and neither wider nor higher. -/
def room (canvas : Canvas ℚ) (view : Rect ℚ) : ℚ :=
  Scalar.lesser (view.width / canvas.size.x) (view.height / canvas.size.y)

variable {canvas : Canvas ℚ}

theorem le_room_iff (wide : 0 < canvas.size.x) (high : 0 < canvas.size.y) {zoom : ℚ}
    {view : Rect ℚ} : zoom ≤ canvas.room view ↔
      canvas.size.x * zoom ≤ view.width ∧ canvas.size.y * zoom ≤ view.height := by
  rw [room, Scalar.le_lesser_iff, le_div_iff₀ wide, le_div_iff₀ high, mul_comm, mul_comm zoom]

/-- In one of the two directions all of the room is needed. -/
theorem size_mul_room (wide : 0 < canvas.size.x) (high : 0 < canvas.size.y) (view : Rect ℚ) :
    canvas.size.x * canvas.room view = view.width ∨
      canvas.size.y * canvas.room view = view.height := by
  rw [room, Scalar.lesser]
  split
  · exact Or.inl (mul_div_cancel₀ _ wide.ne')
  · exact Or.inr (mul_div_cancel₀ _ high.ne')

theorem limitZoom_eq (zoom : ℚ) : limitZoom zoom = max (1 / 10) (min zoom 10) := by
  rw [limitZoom, minZoom_eq, maxZoom_eq, Scalar.clamp]
  grind

/-- Most of some room leaves a margin, and the greatest zoom leaves more; the least zoom may be more
than the room itself. -/
theorem limitZoom_le_iff (room : ℚ) : limitZoom (room * 0.95) ≤ room ↔ 1 / 10 ≤ room := by
  have margin : 1 / 10 ≤ room → room * 0.95 ≤ room := by
    intro enough
    norm_num
    linarith
  rw [limitZoom_eq, max_le_iff]
  exact and_iff_left_of_imp fun enough => (min_le_left _ _).trans (margin enough)

/-- Only the upper limit takes room away. -/
theorem limitZoom_eq_or_le (zoom : ℚ) : limitZoom zoom = 10 ∨ zoom ≤ limitZoom zoom := by
  rw [limitZoom_eq]
  rcases le_total zoom 10 with inside | beyond
  · rw [min_eq_left inside]
    exact Or.inr (le_max_right _ _)
  · rw [min_eq_right beyond]
    exact Or.inl (by norm_num)

theorem zoom_fit (wide : 0 < canvas.size.x) (high : 0 < canvas.size.y) (view : Rect ℚ) :
    (canvas.fit view).zoom = limitZoom (canvas.room view * 0.95) := by
  have sized : ¬ (canvas.size.x ≤ 0.0 ∨ canvas.size.y ≤ 0.0) := by
    norm_num
    exact ⟨wide, high⟩
  rw [fit, if_neg sized]
  rfl

/-- Wherever a canvas was moved to before, a fit puts it in the middle. -/
theorem screenRect_fit (canvas : Canvas ℚ) (view : Rect ℚ) : (canvas.fit view).screenRect view =
    .ofCenterSize view.center (canvas.size.scale (canvas.fit view).zoom) := by
  have centred : view.center + .origin = view.center := by
    have unmoved (middle : ℚ) : middle + 0.0 = middle := by norm_num
    exact Point.ext (unmoved _) (unmoved _)
  rw [screenRect, fit]
  split <;> exact congrArg (Rect.ofCenterSize · _) centred

/-- A fit puts the canvas, whatever was done to it before, in the middle of the view. It is within
the view exactly if a tenth of it would be, for it is never zoomed to less than that; where it is
not within the view it has this least zoom. And it is fitted tightly: it takes at least 95 hundredths of
the width or of the height of the view, unless it has the greatest zoom. -/
theorem fit_shows_whole_canvas_iff (canvas : Canvas ℚ) (view : Rect ℚ) (wide : 0 < canvas.size.x)
    (high : 0 < canvas.size.y) :
    let fitted := (canvas.fit view).screenRect view
    fitted.center = view.center ∧
    (view.encloses fitted = true ↔
      canvas.size.x / 10 ≤ view.width ∧ canvas.size.y / 10 ≤ view.height) ∧
    (view.encloses fitted = false → (canvas.fit view).zoom = 1 / 10) ∧
    ((canvas.fit view).zoom = 10 ∨ view.width * 0.95 ≤ fitted.width ∨
      view.height * 0.95 ≤ fitted.height) := by
  intro fitted
  have placed : fitted = .ofCenterSize view.center (canvas.size.scale (canvas.fit view).zoom) :=
    screenRect_fit canvas view
  have zoom := zoom_fit wide high view
  have limited := limitZoom_mem (canvas.room view * 0.95)
  rw [← zoom] at limited
  have positive : 0 ≤ (canvas.fit view).zoom := by linarith [limited.1]
  have inside : view.encloses fitted = true ↔ 1 / 10 ≤ canvas.room view := by
    rw [placed, Rect.encloses_ofCenterSize_iff (mul_nonneg wide.le positive)
      (mul_nonneg high.le positive), ← limitZoom_le_iff, ← zoom]
    exact (le_room_iff wide high).symm
  refine ⟨?_, ?_, ?_, ?_⟩
  · rw [placed, Rect.center_ofCenterSize]
  · rw [inside, le_room_iff wide high, mul_one_div, mul_one_div]
  · intro outside
    have small : ¬ 1 / 10 ≤ canvas.room view := by
      rw [← inside, outside]
      exact Bool.false_ne_true
    have less : canvas.room view * 0.95 ≤ 1 / 10 := by
      norm_num
      linarith
    rw [zoom, limitZoom_eq]
    exact max_eq_left ((min_le_left _ _).trans less)
  · rw [placed, Rect.width_ofCenterSize, Rect.height_ofCenterSize, zoom]
    refine (limitZoom_eq_or_le _).imp_right fun most => ?_
    rcases size_mul_room wide high view with whole | whole
    · left
      rw [← whole, mul_assoc]
      exact mul_le_mul_of_nonneg_left most wide.le
    · right
      rw [← whole, mul_assoc]
      exact mul_le_mul_of_nonneg_left most high.le

/-- The greatest canvas that can be set sticks out of a window of ordinary size. -/
theorem greatest_canvas_sticks_out :
    ¬ ∀ (canvas : Canvas ℚ) (view : Rect ℚ),
      (100 ≤ canvas.size.x ∧ canvas.size.x ≤ 10000) →
      (100 ≤ canvas.size.y ∧ canvas.size.y ≤ 10000) → 0 < view.width → 0 < view.height →
      ((canvas.fit view).screenRect view).center = view.center ∧
        view.encloses ((canvas.fit view).screenRect view) = true := by
  intro fits
  obtain ⟨-, inside⟩ := fits ⟨⟨10000, 10000⟩, ⟨0, 0⟩, 1⟩ ⟨⟨0, 0⟩, ⟨800, 600⟩⟩
    (by norm_num) (by norm_num) (by decide +kernel) (by decide +kernel)
  exact absurd inside (by decide +kernel)

/-- In a view that leaves room for less than the margin the least zoom still fits. -/
theorem greatest_canvas_in_tight_view :
    let canvas : Canvas ℚ := ⟨⟨10000, 4000⟩, ⟨-7, 30⟩, 10⟩
    let view : Rect ℚ := ⟨⟨20, 10⟩, ⟨1030, 600⟩⟩
    (0 < canvas.size.x ∧ 0 < canvas.size.y) ∧ canvas.room view * 0.95 < 1 / 10 ∧
      view.encloses ((canvas.fit view).screenRect view) = true := by
  intro canvas view
  have wide : 0 < canvas.size.x := by decide +kernel
  have high : 0 < canvas.size.y := by decide +kernel
  obtain ⟨-, inside, -⟩ := fit_shows_whole_canvas_iff canvas view wide high
  exact ⟨⟨wide, high⟩, by decide +kernel,
    inside.mpr ⟨by decide +kernel, by decide +kernel⟩⟩

end Canvas

end StoryMarkers
