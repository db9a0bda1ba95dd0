import Mathlib
import StoryMarkers.Geometry.Precision

set_option autoImplicit false

namespace StoryMarkers.Precision

open Float.Model (Format UnpackedFloat)
open Float.Model.UnpackedFloat

/-- Whether a number has no minus sign; what is not a number has no sign at all. -/
def Unsigned : UnpackedFloat → Prop
  | .infinity sign => sign = .positive
  | .zero sign => sign = .positive
  | .finite sign _ _ _ => sign = .positive
  | .notANumber => True

variable {format : Format} {x y : UnpackedFloat}

theorem unsigned_roundWithAccuracy (format : Format) (significand : Nat) (exponent : Int)
    (accuracy : Accuracy) :
    Unsigned (roundWithAccuracy format .positive significand exponent accuracy) := by
  rw [roundWithAccuracy]
  dsimp only
  split <;> rfl

theorem unsigned_normalize {significand : Int} (nonneg : 0 ≤ significand) (format : Format)
    (exponent : Int) :
    Unsigned (UnpackedFloat.normalize format significand exponent .positive) := by
  rw [UnpackedFloat.normalize]
  split
  · rename_i less
    exact absurd (Int.compare_eq_lt.mp less) (Int.not_lt.mpr nonneg)
  · rfl
  · exact unsigned_roundWithAccuracy format _ _ _

theorem Unsigned.nearest (unsigned : Unsigned x) (format : Format) :
    Unsigned (Precision.nearest format x) := by
  cases x with
  | finite sign significand exponent positive =>
      cases unsigned
      exact unsigned_roundWithAccuracy format _ _ _
  | infinity sign => exact unsigned
  | zero sign => exact unsigned
  | notANumber => trivial

theorem unsigned_mul_self (format : Format) (x : UnpackedFloat) : Unsigned (mul format x x) := by
  cases x with
  | finite sign significand exponent positive =>
      cases sign <;> exact unsigned_roundWithAccuracy format _ _ _
  | infinity sign => cases sign <;> rfl
  | zero sign => cases sign <;> rfl
  | notANumber => trivial

theorem Unsigned.add (left : Unsigned x) (right : Unsigned y) (format : Format) :
    Unsigned (add format x y) := by
  rcases x with _ | _ | _ | ⟨_, m, e, _⟩ <;> rcases y with _ | _ | _ | ⟨_, n, f, _⟩ <;>
    cases left <;> cases right
  case finite.finite =>
    have nonneg (a b : Nat) : 0 ≤ Sign.apply .positive a + Sign.apply .positive b :=
      Int.add_nonneg (Int.natCast_nonneg a) (Int.natCast_nonneg b)
    exact unsigned_normalize (nonneg _ _) format _
  -- In all other cases one of the two, or what they add up to, is known.
  all_goals first | rfl | trivial

theorem Unsigned.sqrt (unsigned : Unsigned x) (format : Format) : Unsigned (sqrt format x) := by
  cases x with
  | finite sign significand exponent positive =>
      cases unsigned
      exact unsigned_roundWithAccuracy format _ _ _
  | infinity sign =>
      cases unsigned
      rfl
  | zero sign => exact unsigned
  | notANumber => trivial

theorem Unsigned.unpackSign_pack (unsigned : Unsigned x) : unpackSign (pack format x) = 0#1 := by
  have packed (exponent : BitVec format.exponentBits)
      (significand : BitVec format.mantissaBitsWithoutImplicit) :
      unpackSign (packComponents format .positive exponent significand) = 0#1 :=
    unpackSign_packComponents .positive exponent significand
  cases x with
  | notANumber => exact packed _ _
  | infinity sign =>
      cases unsigned
      exact packed _ _
  | zero sign =>
      cases unsigned
      exact packed _ _
  | finite sign significand exponent positive =>
      cases unsigned
      simp only [pack]
      split
      · exact packed _ _
      · split <;> exact packed _ _

theorem unsigned_unpack {bits : BitVec format.numBits} (unsigned : unpackSign bits = 0#1) :
    Unsigned (unpack format bits) := by
  simp only [unpack, unsigned]
  split
  · split
    · rfl
    · trivial
  · split
    · split <;> rfl
    · rfl

/-- What is computed is kept in bits and read from them again. -/
theorem Unsigned.unpack_pack (unsigned : Unsigned x) (format : Format) :
    Unsigned (unpack format (pack format x)) :=
  unsigned_unpack unsigned.unpackSign_pack

end StoryMarkers.Precision
