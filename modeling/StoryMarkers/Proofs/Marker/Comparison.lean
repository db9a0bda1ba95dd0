import Mathlib

set_option autoImplicit false

namespace StoryMarkers.Comparison

open Float.Model (UnpackedFloat)

/-- Where a number stands: by its kind, then by its exponent, then by its significand. -/
def rank : UnpackedFloat → Int ×ₗ Int ×ₗ Int
  | .infinity .negative => toLex (-2, toLex (0, 0))
  | .finite .negative significand exponent _ => toLex (-1, toLex (-exponent, -significand))
  | .zero _ => toLex (0, toLex (0, 0))
  | .finite .positive significand exponent _ => toLex (1, toLex (exponent, significand))
  | .infinity .positive => toLex (2, toLex (0, 0))
  | .notANumber => toLex (3, toLex (0, 0))

theorem compare_of_kind (kind a b c d : Int) :
    compare (toLex (kind, toLex (a, b))) (toLex (kind, toLex (c, d))) =
      (compare a c).then (compare b d) := by
  change (compare kind kind).then ((compare a c).then (compare b d)) = _
  rw [compare_eq_iff_eq.mpr rfl]
  rfl

theorem compare_natCast (m n : Nat) : compare (m : Int) n = compare m n := by
  rw [← cmp_eq_compare, ← cmp_eq_compare]
  exact Int.natCast_strictMono.cmp_map_eq m n

theorem compare_neg (a b : Int) : compare (-a) (-b) = (compare a b).swap := by
  have anti : StrictAnti fun a : Int => -a := fun a b less => Int.neg_lt_neg less
  rw [Int.compare_swap, ← cmp_eq_compare, ← cmp_eq_compare]
  exact anti.cmp_map_eq a b

/-- Numbers are compared by where they stand, and what is not a number not at all. -/
theorem compare_eq_rank (x y : UnpackedFloat) :
    x.compare y = if x.isNaN || y.isNaN then none else some (compare (rank x) (rank y)) := by
  rcases x with (_ | _) | _ | _ | ⟨_ | _, m, e, _⟩ <;>
    rcases y with (_ | _) | _ | _ | ⟨_ | _, n, f, _⟩
  case finite.negative.finite.negative =>
    change some _ = some (compare (toLex (-1, toLex (-e, -(m : Int))))
      (toLex (-1, toLex (-f, -(n : Int)))))
    rw [compare_of_kind, compare_neg, compare_neg, compare_natCast, Ordering.swap_then]
  case finite.positive.finite.positive =>
    change some _ = some (compare (toLex (1, toLex (e, (m : Int))))
      (toLex (1, toLex (f, (n : Int)))))
    rw [compare_of_kind, compare_natCast]
  -- All other pairs are told apart by their kinds.
  all_goals rfl

section Unpacked

variable {x y : UnpackedFloat}

theorem unpacked_le_iff :
    x.le y = true ↔ x.isNaN = false ∧ y.isNaN = false ∧ rank x ≤ rank y := by
  rw [UnpackedFloat.le, compare_eq_rank]
  cases x.isNaN <;> cases y.isNaN <;> simp [← compare_le_iff_le, Ordering.isLE_iff_ne_gt]

theorem unpacked_lt_iff :
    x.lt y = true ↔ x.isNaN = false ∧ y.isNaN = false ∧ rank x < rank y := by
  rw [UnpackedFloat.lt, compare_eq_rank]
  cases x.isNaN <;> cases y.isNaN <;> simp [compare_lt_iff_lt]

theorem unpacked_beq_iff :
    x.beq y = true ↔ x.isNaN = false ∧ y.isNaN = false ∧ rank x = rank y := by
  rw [UnpackedFloat.beq, compare_eq_rank]
  cases x.isNaN <;> cases y.isNaN <;> simp [compare_eq_iff_eq]

end Unpacked

def standing (x : Float) : Int ×ₗ Int ×ₗ Int := rank x.toModel.unpack

section Floats

variable {x y z : Float}

theorem le_iff : x ≤ y ↔ x.isNaN = false ∧ y.isNaN = false ∧ standing x ≤ standing y := by
  change decide (x.toModel.unpack.le y.toModel.unpack = true) = true ↔ _
  rw [decide_eq_true_eq]
  exact unpacked_le_iff

theorem lt_iff : x < y ↔ x.isNaN = false ∧ y.isNaN = false ∧ standing x < standing y := by
  change decide (x.toModel.unpack.lt y.toModel.unpack = true) = true ↔ _
  rw [decide_eq_true_eq]
  exact unpacked_lt_iff

theorem beq_iff :
    (x == y) = true ↔ x.isNaN = false ∧ y.isNaN = false ∧ standing x = standing y :=
  unpacked_beq_iff

theorem left_isNumber (le : x ≤ y) : x.isNaN = false := (le_iff.mp le).1

theorem right_isNumber (le : x ≤ y) : y.isNaN = false := (le_iff.mp le).2.1

theorem refl (number : x.isNaN = false) : x ≤ x := le_iff.mpr ⟨number, number, le_rfl⟩

theorem trans (first : x ≤ y) (second : y ≤ z) : x ≤ z := by
  rw [le_iff] at *
  exact ⟨first.1, second.2.1, first.2.2.trans second.2.2⟩

theorem total (left : x.isNaN = false) (right : y.isNaN = false) : x ≤ y ∨ y ≤ x := by
  simp only [le_iff, left, right, true_and]
  exact le_total _ _

theorem le_of_lt (less : x < y) : x ≤ y := by
  rw [lt_iff] at less
  exact le_iff.mpr ⟨less.1, less.2.1, less.2.2.le⟩

/-- Numbers are equal if each is at most the other, as the two zeros are. -/
theorem beq_of_le_of_le (le : x ≤ y) (ge : y ≤ x) : (x == y) = true := by
  rw [le_iff] at le ge
  exact beq_iff.mpr ⟨le.1, le.2.1, le_antisymm le.2.2 ge.2.2⟩

end Floats

end StoryMarkers.Comparison
