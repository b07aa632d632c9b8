import Mathlib
import SpanQuery.Decimal.Binary64
import SpanQuery.Decimal.Reader

namespace SpanQuery

open Float.Model UnpackedFloat

/-! ## Packed values -/

theorem unpack_isNaN_iff {spec : Format} {b : BitVec spec.numBits} :
    (UnpackedFloat.unpack spec b).isNaN ↔ unpackExponent b = (-1#_) ∧ unpackMantissa b ≠ 0#_ := by
  unfold UnpackedFloat.unpack
  dsimp only
  by_cases exponent : unpackExponent b = (-1#_)
  · rw [if_pos exponent]
    by_cases mantissa : unpackMantissa b = 0#_
    · simp [mantissa, UnpackedFloat.isNaN]
    · simp [exponent, mantissa, UnpackedFloat.isNaN]
  · rw [if_neg exponent]
    split
    · split <;> simp [exponent, UnpackedFloat.isNaN]
    · simp [exponent, UnpackedFloat.isNaN]

theorem isNaN_unpack_pack {spec : Format} {x : UnpackedFloat} (number : x.isNaN = false) :
    (UnpackedFloat.unpack spec (UnpackedFloat.pack spec x)).isNaN = false := by
  rw [← Bool.not_eq_true, unpack_isNaN_iff]
  revert number
  fun_cases UnpackedFloat.pack with
  | case1 => nofun
  | case2 s => simp [packedInfinity]
  | case3 s => simp [packedZero]
  | case4 s m e hm biasedExponent big => simp [packedInfinity]
  | case5 s m e hm bits biasedExponent big normal =>
      have small : biasedExponent < 2 ^ spec.exponentBits - 1 := by omega
      have other : biasedExponent % 2 ^ spec.exponentBits ≠ 2 ^ spec.exponentBits - 1 := by
        rw [Nat.mod_eq_of_lt (by omega)]
        omega
      simp [BitVec.neg_one_eq_allOnes, ← BitVec.toNat_inj, other]
  | case6 s m e hm bits biasedExponent big subnormal =>
      have pos := spec.he
      simp [BitVec.neg_one_eq_allOnes, ← BitVec.toNat_inj]
      omega

theorem isNaN_pack {x : UnpackedFloat} (number : x.isNaN = false) :
    (Float.ofModel (Float.Model.pack x)).isNaN = false :=
  isNaN_unpack_pack number

/-! ## Operations -/

theorem isNaN_neg {x : Float} (number : x.isNaN = false) : (-x).isNaN = false := by
  apply isNaN_pack
  change x.toModel.unpack.isNaN = false at number
  revert number
  cases x.toModel.unpack <;> exact id

theorem isNaN_roundWithAccuracy (spec : Format) (sign : Sign) (m : Nat) (e : Int)
    (accuracy : Accuracy) : (roundWithAccuracy spec sign m e accuracy).isNaN = false := by
  unfold roundWithAccuracy
  dsimp only
  split <;> rfl

theorem isNaN_toFloat (n : UInt64) : n.toFloat.isNaN = false := by
  apply isNaN_pack
  change (UnpackedFloat.normalize _ _ _ _).isNaN = false
  unfold UnpackedFloat.normalize
  split
  · exact isNaN_roundWithAccuracy ..
  · rfl
  · exact isNaN_roundWithAccuracy ..

def isRegular (x : Float) : Bool :=
  match x.toModel.unpack with
  | .finite .. => true
  | _ => false

theorem isNaN_mul {x y : Float} (number : x.isNaN = false) (regular : isRegular y) :
    (x * y).isNaN = false := by
  apply isNaN_pack
  change x.toModel.unpack.isNaN = false at number
  unfold isRegular at regular
  revert number regular
  cases x.toModel.unpack <;> cases y.toModel.unpack
  case finite.finite => exact fun _ _ => isNaN_roundWithAccuracy ..
  all_goals simp [UnpackedFloat.mul, UnpackedFloat.isNaN]

theorem isNaN_div {x y : Float} (number : x.isNaN = false) (regular : isRegular y) :
    (x / y).isNaN = false := by
  apply isNaN_pack
  change x.toModel.unpack.isNaN = false at number
  unfold isRegular at regular
  revert number regular
  cases x.toModel.unpack <;> cases y.toModel.unpack
  case finite.finite => exact fun _ _ => isNaN_roundWithAccuracy ..
  all_goals simp [UnpackedFloat.div, UnpackedFloat.isNaN]

/-! ## Decimals -/

theorem isNaN_unpackedScientific (spec : Format) (m : Nat) (e : Int) :
    (UnpackedFloat.ofScientific spec m e).isNaN = false := by
  unfold UnpackedFloat.ofScientific
  iterate 3
    split
    · rfl
  split
  · exact isNaN_roundWithAccuracy ..
  · exact isNaN_roundWithAccuracy ..

theorem isNaN_ofScientific (m : Nat) (negative : Bool) (e : Nat) :
    (Float.ofScientific m negative e).isNaN = false := by
  unfold Float.ofScientific
  split
  · have powers : ∀ p ∈ Float.exactlyRepresentablePowersOfTen, isRegular p := by decide +kernel
    split
    · exact isNaN_div (isNaN_toFloat _) (powers _ (Array.getElem_mem _))
    · exact isNaN_mul (isNaN_toFloat _) (powers _ (Array.getElem_mem _))
  · exact isNaN_pack (isNaN_unpackedScientific ..)

namespace Decimal

theorem isNaN_scaled (m : Nat) (e : Int) : (scaled m e).isNaN = false := by
  unfold scaled
  split
  · decide +kernel
  · split
    · decide +kernel
    · exact isNaN_ofScientific ..

theorem isNaN_unsigned? {s : List Char} {value : Float} (reads : unsigned? s = some value) :
    value.isNaN = false := by
  simp only [unsigned?] at reads
  split at reads
  all_goals
    split at reads
    · cases reads
    · obtain ⟨e, -, same⟩ := Option.bind_eq_some_iff.1 reads
      rw [← Option.some.inj same]
      exact isNaN_scaled ..

end Decimal

theorem isNaN_of_ofFloat {x : Float} (h : Binary64.ofFloat x = .nan) : x.isNaN := by
  unfold Binary64.ofFloat Binary64.ofBits at h
  change (UnpackedFloat.unpack _ _).isNaN
  rw [unpack_isNaN_iff]
  rcases ite_eq_iff.1 h with ⟨exponent, h⟩ | ⟨-, h⟩
  · rcases ite_eq_iff.1 h with ⟨-, h⟩ | ⟨fraction, -⟩
    · cases h
    · rw [← BitVec.toNat_inj, Ne, ← BitVec.toNat_inj]
      simp only [UnpackedFloat.unpackExponent, UnpackedFloat.unpackMantissa, BitVec.toNat_cast,
        BitVec.extractLsb_toNat, Format.binary64]
      change x.toModel.toBits.toNat / 2 ^ 52 % 2048 = 2047 at exponent
      rw [← Nat.shiftRight_eq_div_pow] at exponent
      simp only [Nat.shiftRight_zero]
      exact ⟨exponent, fraction⟩
  · rcases ite_eq_iff.1 h with ⟨-, h⟩ | ⟨-, h⟩ <;> cases h

end SpanQuery
