import StoryMarkers.Overlay.Basic
import StoryMarkers.Proofs.Geometry.Signs
import StoryMarkers.Proofs.Marker.Comparison

/-!
Distances as keys. The length of a vector has no minus sign, not even that of a zero; numbers
without one are ordered as the naturals that their bits are, so the key of a length orders lengths
as numbers, and two lengths with different keys are different numbers.
-/

set_option autoImplicit false

namespace StoryMarkers

open Comparison (rank)
open Float.Model (Format UnpackedFloat)
open Float.Model.UnpackedFloat

namespace Precision

/-- Where the bits of an unsigned number of single precision stand among all numbers. -/
def place (bits : Nat) : Int ×ₗ Int ×ₗ Int :=
  let exponent : Nat := bits / 2 ^ 23
  let significand : Nat := bits % 2 ^ 23
  if exponent = 255 then toLex (if significand = 0 then 2 else 3, toLex (0, 0))
  else if exponent = 0 then
    if significand = 0 then toLex (0, toLex (0, 0)) else toLex (1, toLex (-149, (significand : Int)))
  else toLex (1, toLex ((exponent : Int) - 150, 2 ^ 23 + (significand : Int)))

/-- The bits of infinity; those above it are no numbers. -/
def infinityBits : Nat := 255 * 2 ^ 23

theorem strictMonoOn_place : StrictMonoOn place (Set.Iic infinityBits) := by
  intro a _ b number less
  rw [Set.mem_Iic, infinityBits] at number
  simp only [place]
  split_ifs <;> simp only [Prod.Lex.toLex_lt_toLex, true_and] <;> omega

section Fields

variable {bits : BitVec 32}

theorem toNat_unpackMantissa (bits : BitVec 32) :
    (@unpackMantissa .binary32 bits).toNat = bits.toNat % 2 ^ 23 := by
  simp [unpackMantissa]

theorem toNat_unpackExponent (unsigned : bits.toNat < 2 ^ 31) :
    (@unpackExponent .binary32 bits).toNat = bits.toNat / 2 ^ 23 := by
  simp only [unpackExponent, BitVec.toNat_cast, BitVec.extractLsb_toNat, Nat.shiftRight_eq_div_pow]
  omega

theorem unpackSign_eq_zero_iff :
    @unpackSign .binary32 bits = 0#1 ↔ bits.toNat < 2 ^ 31 := by
  have bound := bits.isLt
  rw [← BitVec.toNat_inj]
  simp only [unpackSign, BitVec.toNat_cast, BitVec.extractLsb_toNat, Nat.shiftRight_eq_div_pow,
    BitVec.toNat_ofNat]
  omega

theorem rank_unpack (unsigned : bits.toNat < 2 ^ 31) :
    rank (unpack .binary32 bits) = place bits.toNat := by
  have exponent := toNat_unpackExponent unsigned
  have significand := toNat_unpackMantissa bits
  have sign := unpackSign_eq_zero_iff.mpr unsigned
  have highest : @unpackExponent .binary32 bits = -1#8 ↔ bits.toNat / 2 ^ 23 = 255 := by
    rw [← BitVec.toNat_inj, exponent]
    rfl
  have lowest : @unpackExponent .binary32 bits = 0#8 ↔ bits.toNat / 2 ^ 23 = 0 := by
    rw [← BitVec.toNat_inj, exponent]
    rfl
  have empty : @unpackMantissa .binary32 bits = 0#23 ↔ bits.toNat % 2 ^ 23 = 0 := by
    rw [← BitVec.toNat_inj, significand]
    rfl
  have bias : (Format.binary32.exponentBias : Int) + (23 : Nat) = 150 := rfl
  simp only [unpack, place, highest, lowest, empty, sign]
  split
  · split <;> rfl
  · split
    · rename_i least
      split
      · rfl
      · -- A subnormal number has no leading bit, and the exponent of the least one that has.
        simp only [rank, Sign.ofBitVec, ↓reduceIte, exponent, significand, bias, least]
        rfl
    · have leading : (1#1 ++ @unpackMantissa .binary32 bits).toNat =
          2 ^ 23 + bits.toNat % 2 ^ 23 := by
        rw [BitVec.toNat_append, ← Nat.shiftLeft_add_eq_or_of_lt (BitVec.isLt _), significand]
        rfl
      simp only [rank, Sign.ofBitVec, ↓reduceIte, exponent, leading, bias]
      rfl

end Fields

theorem isNaN_of_rank {x : UnpackedFloat} (above : rank x = toLex (3, toLex (0, 0))) :
    x.isNaN = true := by
  rcases x with (_ | _) | _ | _ | ⟨_ | _, _, _, _⟩
  case notANumber => rfl
  all_goals simp [rank] at above

section Singles

variable {x y z : Float32}

theorem single_lt_iff : x < y ↔
    x.isNaN = false ∧ y.isNaN = false ∧ rank x.toModel.unpack < rank y.toModel.unpack := by
  change decide (x.toModel.unpack.lt y.toModel.unpack = true) = true ↔ _
  rw [decide_eq_true_eq]
  exact Comparison.unpacked_lt_iff

theorem single_beq_iff : (x == y) = true ↔
    x.isNaN = false ∧ y.isNaN = false ∧ rank x.toModel.unpack = rank y.toModel.unpack :=
  Comparison.unpacked_beq_iff

theorem single_lt_trans (first : x < y) (second : y < z) : x < z := by
  rw [single_lt_iff] at *
  exact ⟨first.1, second.2.1, first.2.2.trans second.2.2⟩

theorem single_lt_of_beq_of_lt (first : (x == y) = true) (second : y < z) : x < z := by
  rw [single_beq_iff] at first
  rw [single_lt_iff] at *
  exact ⟨first.1, second.2.1, first.2.2 ▸ second.2.2⟩

end Singles

/-- A number of single precision whose bits leave the one of the sign out. -/
structure Plain (x : Float32) : Prop where
  unsigned : x.toBits.toNat < 2 ^ 31
  number : x.isNaN = false

namespace Plain

variable {x y : Float32}

theorem rank_eq (plain : Plain x) : rank x.toModel.unpack = place x.toBits.toNat :=
  rank_unpack plain.unsigned

theorem mem_Iic (plain : Plain x) : x.toBits.toNat ∈ Set.Iic infinityBits := by
  have unsigned := plain.unsigned
  by_contra above
  rw [Set.mem_Iic, infinityBits] at above
  have exponent : x.toBits.toNat / 2 ^ 23 = 255 := by omega
  have significand : ¬ x.toBits.toNat % 2 ^ 23 = 0 := by omega
  have placed : place x.toBits.toNat = toLex (3, toLex (0, 0)) := by
    simp only [place, exponent, significand, ↓reduceIte]
  have none : x.isNaN = true := isNaN_of_rank (plain.rank_eq.trans placed)
  rw [plain.number] at none
  cases none

/-- A plain number has its bits as its key. -/
theorem orderKey_eq (plain : Plain x) : orderKey x = x.toBits.toNat := if_pos plain.unsigned

theorem lt_iff (left : Plain x) (right : Plain y) : x < y ↔ orderKey x < orderKey y := by
  have ranks : x < y ↔ rank x.toModel.unpack < rank y.toModel.unpack := by
    rw [single_lt_iff]
    exact ⟨fun less => less.2.2, fun less => ⟨left.number, right.number, less⟩⟩
  rw [ranks, left.rank_eq, right.rank_eq,
    strictMonoOn_place.lt_iff_lt left.mem_Iic right.mem_Iic, left.orderKey_eq, right.orderKey_eq,
    Int.ofNat_lt]

theorem beq_iff (left : Plain x) (right : Plain y) :
    (x == y) = true ↔ orderKey x = orderKey y := by
  have ranks : (x == y) = true ↔ rank x.toModel.unpack = rank y.toModel.unpack := by
    rw [single_beq_iff]
    exact ⟨fun equal => equal.2.2, fun equal => ⟨left.number, right.number, equal⟩⟩
  rw [ranks, left.rank_eq, right.rank_eq,
    strictMonoOn_place.injOn.eq_iff left.mem_Iic right.mem_Iic, left.orderKey_eq,
    right.orderKey_eq, Int.ofNat_inj]

end Plain

end Precision

/-- A length has no minus sign: it is made of two squares. -/
theorem Point.toNat_toBits_length (p : Point Float32) : p.length.toBits.toNat < 2 ^ 31 := by
  let across := Precision.double p.x
  let down := Precision.double p.y
  have square (x : Float) : Precision.Unsigned (x * x).toModel.unpack :=
    (Precision.unsigned_mul_self .binary64 x.toModel.unpack).unpack_pack .binary64
  have sum : Precision.Unsigned (across * across + down * down).toModel.unpack :=
    ((square across).add (square down) .binary64).unpack_pack .binary64
  have root : Precision.Unsigned (across * across + down * down).sqrt.toModel.unpack :=
    (sum.sqrt .binary64).unpack_pack .binary64
  exact Precision.unpackSign_eq_zero_iff.mp (root.nearest .binary32).unpackSign_pack

/-- What is shorter than anything is a number. -/
theorem Point.plain_length {p : Point Float32} {bound : Float32} (short : p.length < bound) :
    Precision.Plain p.length :=
  ⟨p.toNat_toBits_length, (Precision.single_lt_iff.mp short).1⟩

end StoryMarkers
