import StoryMarkers.Geometry.Viewport
import StoryMarkers.Proofs.Geometry.Rational

/-!
The canvas over rationals among which there is no quotient by zero. Whatever is done to a canvas
comes out as over the rationals themselves, so nothing is ever divided by zero.
-/

set_option autoImplicit false

namespace StoryMarkers

/-- A number, unless something was divided by zero on the way to it. -/
structure Checked where
  value? : Option ℚ

namespace Checked

def ofRat (x : ℚ) : Checked := ⟨some x⟩

instance : Add Checked := ⟨fun a b => ⟨Option.map₂ (· + ·) a.value? b.value?⟩⟩

instance : Sub Checked := ⟨fun a b => ⟨Option.map₂ (· - ·) a.value? b.value?⟩⟩

instance : Mul Checked := ⟨fun a b => ⟨Option.map₂ (· * ·) a.value? b.value?⟩⟩

instance : Div Checked :=
  ⟨fun a b => ⟨a.value?.bind fun x => b.value?.bind fun y => if y = 0 then none else some (x / y)⟩⟩

/-- Only numbers are compared. -/
def compares (relation : ℚ → ℚ → Bool) (a b : Checked) : Bool :=
  Option.map₂ relation a.value? b.value? = some true

instance : Scalar Checked where
  le a b := compares (fun x y => x ≤ y) a b
  lt a b := compares (fun x y => x < y) a b
  ofScientific significand sign exponent := ofRat (OfScientific.ofScientific significand sign exponent)
  decLE _ _ := inferInstance
  decLT _ _ := inferInstance

variable {x y : ℚ}

theorem ofRat_div (nonzero : y ≠ 0) : ofRat x / ofRat y = ofRat (x / y) := by
  change (⟨if y = 0 then none else some (x / y)⟩ : Checked) = _
  rw [if_neg nonzero]
  rfl

theorem ofRat_le : ofRat x ≤ ofRat y ↔ x ≤ y := by
  change compares (fun x y => x ≤ y) (ofRat x) (ofRat y) = true ↔ _
  simp [compares, ofRat]

theorem ofRat_lt : ofRat x < ofRat y ↔ x < y := by
  change compares (fun x y => x < y) (ofRat x) (ofRat y) = true ↔ _
  simp [compares, ofRat]

theorem clamp_ofRat (low high x : ℚ) :
    Scalar.clamp (ofRat low) (ofRat high) (ofRat x) = ofRat (Scalar.clamp low high x) := by
  simp only [Scalar.clamp, ofRat_lt]
  split
  · rfl
  · split <;> rfl

theorem lesser_ofRat (x y : ℚ) :
    Scalar.lesser (ofRat x) (ofRat y) = ofRat (Scalar.lesser x y) := by
  simp only [Scalar.lesser, ofRat_le]
  split <;> rfl

end Checked

section Map

variable {α β : Type}

def Point.map (f : α → β) (p : Point α) : Point β := ⟨f p.x, f p.y⟩

def Rect.map (f : α → β) (r : Rect α) : Rect β := ⟨r.min.map f, r.max.map f⟩

def Viewport.map (f : α → β) (viewport : Viewport α) : Viewport β :=
  ⟨viewport.bottomLeft, viewport.size.map f⟩

namespace Canvas

def map (f : α → β) (canvas : Canvas α) : Canvas β :=
  ⟨canvas.size.map f, canvas.offset.map f, f canvas.zoom⟩

def Move.map (f : α → β) : Move α → Move β
  | .setSize size => .setSize (size.map f)
  | .pan movement => .pan (movement.map f)
  | .zoomAt factor pos view => .zoomAt (f factor) (pos.map f) (view.map f)
  | .fit view => .fit (view.map f)

end Canvas

end Map

open Checked (ofRat)

theorem Point.shrink_ofRat {divisor : ℚ} (nonzero : divisor ≠ 0) (p : Point ℚ) :
    (p.map ofRat).shrink (ofRat divisor) = (p.shrink divisor).map ofRat := by
  ext
  · exact Checked.ofRat_div nonzero
  · exact Checked.ofRat_div nonzero

theorem Rect.center_ofRat (r : Rect ℚ) : (r.map ofRat).center = r.center.map ofRat :=
  Point.shrink_ofRat (by norm_num) (r.min + r.max)

theorem Viewport.flip_ofRat (viewport : Viewport ℚ) (p : Point ℚ) :
    (viewport.map ofRat).flip (p.map ofRat) = (viewport.flip p).map ofRat := by
  obtain ⟨bottomLeft, size⟩ := viewport
  cases bottomLeft <;> rfl

namespace Canvas

variable {canvas : Canvas ℚ}

theorem limitZoom_ofRat (zoom factor : ℚ) :
    limitZoom (ofRat zoom * ofRat factor) = ofRat (limitZoom (zoom * factor)) :=
  Checked.clamp_ofRat _ _ (zoom * factor)

theorem screenRect_ofRat (canvas : Canvas ℚ) (view : Rect ℚ) :
    (canvas.map ofRat).screenRect (view.map ofRat) = (canvas.screenRect view).map ofRat := by
  rw [screenRect, Rect.center_ofRat]
  rfl

theorem toScreen_ofRat (canvas : Canvas ℚ) (pos : Point ℚ) (view : Rect ℚ) :
    (canvas.map ofRat).toScreen (pos.map ofRat) (view.map ofRat) =
      (canvas.toScreen pos view).map ofRat := by
  rw [toScreen, screenRect_ofRat]
  rfl

theorem toCanvas_ofRat (inside : canvas.InLimits) (pos : Point ℚ) (view : Rect ℚ) :
    (canvas.map ofRat).toCanvas (pos.map ofRat) (view.map ofRat) =
      (canvas.toCanvas pos view).map ofRat := by
  rw [toCanvas, screenRect_ofRat]
  exact Point.shrink_ofRat inside.pos.ne' (pos - (canvas.screenRect view).min)

/-- The zoom that is divided by is the one before. -/
theorem zoomAt_ofRat (inside : canvas.InLimits) (factor : ℚ) (pos : Point ℚ) (view : Rect ℚ) :
    (canvas.map ofRat).zoomAt (ofRat factor) (pos.map ofRat) (view.map ofRat) =
      (canvas.zoomAt factor pos view).map ofRat := by
  have limited : limitZoom ((canvas.map ofRat).zoom * ofRat factor) =
      ofRat (limitZoom (canvas.zoom * factor)) := limitZoom_ofRat canvas.zoom factor
  have ratio : ofRat (limitZoom (canvas.zoom * factor)) / (canvas.map ofRat).zoom =
      ofRat (limitZoom (canvas.zoom * factor) / canvas.zoom) := Checked.ofRat_div inside.pos.ne'
  simp only [zoomAt, Rect.center_ofRat, limited, ratio]
  rfl

/-- What is divided by is positive, as nothing else is fitted. -/
theorem fit_ofRat (canvas : Canvas ℚ) (view : Rect ℚ) :
    (canvas.map ofRat).fit (view.map ofRat) = (canvas.fit view).map ofRat := by
  have flat : ((canvas.map ofRat).size.x ≤ 0.0 ∨ (canvas.map ofRat).size.y ≤ 0.0) ↔
      (canvas.size.x ≤ 0.0 ∨ canvas.size.y ≤ 0.0) :=
    or_congr Checked.ofRat_le Checked.ofRat_le
  simp only [fit, flat]
  split
  · rfl
  · rename_i sized
    obtain ⟨wide, high⟩ : 0 < canvas.size.x ∧ 0 < canvas.size.y := by
      norm_num at sized
      exact sized
    have across : (view.map ofRat).width / (canvas.map ofRat).size.x =
        ofRat (view.width / canvas.size.x) := Checked.ofRat_div wide.ne'
    have down : (view.map ofRat).height / (canvas.map ofRat).size.y =
        ofRat (view.height / canvas.size.y) := Checked.ofRat_div high.ne'
    have limited (scale : ℚ) : limitZoom (ofRat scale * 0.95) = ofRat (limitZoom (scale * 0.95)) :=
      limitZoom_ofRat scale 0.95
    rw [across, down, Checked.lesser_ofRat, limited]
    rfl

theorem move_ofRat (inside : canvas.InLimits) (move : Move ℚ) :
    (canvas.map ofRat).move (move.map ofRat) = (canvas.move move).map ofRat := by
  cases move with
  | setSize size => rfl
  | pan movement => rfl
  | zoomAt factor pos view => exact zoomAt_ofRat inside factor pos view
  | fit view => exact fit_ofRat canvas view

theorem run_ofRat (inside : canvas.InLimits) (moves : List (Move ℚ)) :
    (canvas.map ofRat).run (moves.map (Move.map ofRat)) = (canvas.run moves).map ofRat := by
  induction moves generalizing canvas with
  | nil => rfl
  | cons first rest ih =>
      change ((canvas.map ofRat).move (first.map ofRat)).run (rest.map (Move.map ofRat)) = _
      rw [move_ofRat inside]
      exact ih (inside.move first)

end Canvas

end StoryMarkers
