import SpanQuery.Decimal.Reader
import SpanQuery.Proofs.Decimal.Arithmetic

namespace SpanQuery
open Float.Model UnpackedFloat

open Binary64 (Canonical)

namespace Decimal

/-! ## Small powers -/

def isPower (j : Nat) : Binary64 → Bool
  | .finite false m q => 2 ^ 52 ≤ m ∧ m * 2 ^ q.toNat = 10 ^ j * 2 ^ (-q).toNat
  | _ => false

theorem isPower_table : ∀ j : Fin 23,
    isPower j (Binary64.ofFloat Float.exactlyRepresentablePowersOfTen[j]) := by
  decide +kernel

theorem unpack_power {j : Nat} (lt : j < Float.exactlyRepresentablePowersOfTen.size) :
    ∃ (m : Nat) (q : Int) (pos : 0 < m),
      Float.exactlyRepresentablePowersOfTen[j].toModel.unpack = .finite .positive m q pos ∧
        2 ^ 52 ≤ m ∧ (m * 2 ^ q : ℚ) = 10 ^ j := by
  have power := isPower_table ⟨j, lt⟩
  unfold isPower at power
  split at power
  · rename_i m q form
    obtain ⟨normal, value⟩ := of_decide_eq_true power
    have pos : 0 < m := lt_of_lt_of_le (by positivity) normal
    refine ⟨m, q, pos, Binary64.unpack_of_ofFloat pos form, normal, ?_⟩
    have value : (m * 2 ^ q.toNat : ℚ) = 10 ^ j * 2 ^ (-q).toNat := by exact_mod_cast value
    have unit : (0 : ℚ) < 2 ^ (-q).toNat := by positivity
    rw [← zpow_toNat 2 two_ne_zero, ← mul_assoc] at value
    exact mul_right_cancel₀ unit.ne' value
  · cases power

/-! ## Bounds -/

section
variable {n m : Nat} {q e : Int}

theorem le_of_nearest (pos : 0 < n) (canonical : Canonical m q)
    (nearest : Nearest m q (n * 10 ^ e)) : -(n.log2 + 330 : Int) ≤ e := by
  by_contra less
  have ten : (0 : ℚ) < 10 ^ n.log2 := by positivity
  have digits : (n : ℚ) < 2 * 10 ^ n.log2 := by
    have bits : (n : ℚ) < 2 ^ (n.log2 + 1) := by exact_mod_cast Nat.lt_log2_self
    have grows : (2 : ℚ) ^ n.log2 ≤ 10 ^ n.log2 := by
      gcongr
      norm_num
    rw [pow_succ] at bits
    linarith
  have split : (10 : ℚ) ^ (-(n.log2 + 331 : Int)) = (10 ^ n.log2)⁻¹ * 10 ^ (-331 : Int) := by
    rw [neg_add, zpow_add₀ (by norm_num), zpow_neg, zpow_natCast]
  -- Anything smaller is nearer to zero than to the least double.
  have small : (n * 10 ^ e : ℚ) < 2 ^ (-1075 : Int) := by
    calc (n * 10 ^ e : ℚ) ≤ n * 10 ^ (-(n.log2 + 331 : Int)) := by
          gcongr
          · norm_num
          · omega
      _ < 2 * 10 ^ n.log2 * 10 ^ (-(n.log2 + 331 : Int)) := by gcongr
      _ = 2 * 10 ^ (-331 : Int) := by
          rw [split]
          field_simp
      _ < 2 ^ (-1075 : Int) := by
          have apart : (2 : ℚ) ^ 1076 < 10 ^ 331 := by
            exact_mod_cast (show 2 ^ 1076 < 10 ^ 331 by decide +kernel)
          rw [zpow_neg, zpow_neg, ← div_eq_mul_inv, div_lt_iff₀ (by positivity), mul_comm,
            ← div_eq_mul_inv, lt_div_iff₀ (by positivity)]
          rw [pow_succ, mul_comm] at apart
          exact apart
  have large : (2 : ℚ) ^ (-1075 : Int) ≤ (m - 1 / 2) * 2 ^ q := by
    have whole : (1 : ℚ) ≤ m := by exact_mod_cast canonical.pos
    have half : (2 : ℚ) ^ (-1075 : Int) = 1 / 2 * 2 ^ (-1074 : Int) := by
      rw [show (-1075 : Int) = -1 + -1074 by decide, zpow_add₀ two_ne_zero]
      norm_num
    have least : (2 : ℚ) ^ (-1074 : Int) ≤ 2 ^ q := zpow_le_zpow_right₀ one_le_two canonical.low
    rw [half]
    exact mul_le_mul (by linarith) least (by positivity) (by linarith)
  linarith [nearest.low]

theorem ge_of_nearest (pos : 0 < n) (canonical : Canonical m q)
    (nearest : Nearest m q (n * 10 ^ e)) : e ≤ 310 := by
  by_contra more
  have whole : (1 : ℚ) ≤ n := by exact_mod_cast pos
  have large : (10 : ℚ) ^ (311 : Int) ≤ n * 10 ^ e := by
    calc (10 : ℚ) ^ (311 : Int) ≤ 10 ^ e := zpow_le_zpow_right₀ (by norm_num) (by omega)
      _ ≤ n * 10 ^ e := le_mul_of_one_le_left (by positivity) whole
  have small : (m + 1 / 2 : ℚ) * 2 ^ q ≤ 2 ^ 53 * 2 ^ (971 : Int) := by
    have top : (m : ℚ) + 1 ≤ 2 ^ 53 := by exact_mod_cast canonical.lt
    have greatest : (2 : ℚ) ^ q ≤ 2 ^ (971 : Int) :=
      zpow_le_zpow_right₀ one_le_two canonical.high
    gcongr
    linarith
  have apart : (2 : ℚ) ^ 53 * 2 ^ (971 : Int) < 10 ^ (311 : Int) := by
    exact_mod_cast (show 2 ^ 53 * 2 ^ 971 < 10 ^ 311 by decide +kernel)
  exact (large.trans (nearest.high.trans small)).not_gt apart

/-! ## Rounding -/

theorem unpack_ofScientific_short (pos : 0 < n) (short : n < 2 ^ 53) (small : e.natAbs ≤ 22)
    (canonical : Canonical m q) (nearest : Nearest m q (n * 10 ^ e)) :
    (Float.ofScientific n (e < 0) e.natAbs).toModel.unpack =
      .finite .positive m q canonical.pos := by
  obtain ⟨k, whole⟩ := Binary64.exists_canonical (q := 0) pos short (by decide) (by decide)
  have digits := unpack_toFloat whole
  have value := Binary64.shiftLeft_mul_zpow n k 0
  have size : e.natAbs < Float.exactlyRepresentablePowersOfTen.size := Nat.lt_succ_of_le small
  obtain ⟨p, r, positive, power, normal, ten⟩ := unpack_power size
  unfold Float.ofScientific
  rw [dif_pos ⟨short, small⟩]
  by_cases negative : e < 0
  · have quotient : (n * 10 ^ e : ℚ) =
        (n <<< k : Nat) * 2 ^ (0 - k : Int) / (p * 2 ^ r) := by
      rw [value, ten, ← zpow_natCast, show e = -(e.natAbs : Int) by omega, zpow_neg]
      simp [div_eq_mul_inv]
    rw [quotient] at nearest
    simp only [negative, decide_true, if_true]
    exact Float.unpack_div digits power canonical nearest
  · have product : (n * 10 ^ e : ℚ) =
        (n <<< k : Nat) * 2 ^ (0 - k : Int) * (p * 2 ^ r) := by
      rw [value, ten, ← zpow_natCast, Int.natAbs_of_nonneg (by omega)]
      simp
    rw [product] at nearest
    simp only [negative, decide_false, Bool.false_eq_true, if_false]
    exact Float.unpack_mul digits power normal canonical nearest

theorem unpack_ofScientific_long (pos : 0 < n) (canonical : Canonical m q)
    (nearest : Nearest m q (n * 10 ^ e)) :
    UnpackedFloat.ofScientific Format.binary64 n e = .finite .positive m q canonical.pos := by
  have low := le_of_nearest pos canonical nearest
  have high := ge_of_nearest pos canonical nearest
  have exponents : (2 ^ Format.binary64.exponentBits : Int) = 2048 := by decide
  unfold UnpackedFloat.ofScientific
  rw [dif_neg pos.ne', exponents, if_neg (by omega), if_neg (by omega)]
  split
  · rename_i nonneg
    have value : (n * 10 ^ e : ℚ) = (n <<< 53 : Nat) * 2 ^ (-53 : Int) *
        ((10 ^ e.toNat : Nat) * 2 ^ (0 : Int)) := by
      have power : (10 : ℚ) ^ e = (10 ^ e.toNat : Nat) := by
        rw [Nat.cast_pow, ← zpow_natCast, Int.toNat_of_nonneg nonneg]
        rfl
      have shifted := Binary64.shiftLeft_mul_zpow n 53 0
      rw [zpow_zero, mul_one] at shifted
      rw [zpow_zero, mul_one, power, ← shifted]
      rfl
    have some : 0 < n * 10 ^ e.toNat := Nat.mul_pos pos (by positivity)
    have bits : 53 ≤ (n <<< 53 * 10 ^ e.toNat).log2 := by
      rw [Nat.shiftLeft_eq, Nat.mul_right_comm, ← Nat.shiftLeft_eq, Binary64.log2_shiftLeft some]
      exact Nat.le_add_left _ _
    have le : -53 + 0 ≤
        max (-1074) (-53 + 0 + ((n <<< 53 * 10 ^ e.toNat).log2 : Int) - 52) := by omega
    rw [value] at nearest
    exact unpacked_mul le canonical nearest
  · rename_i negative
    have value : (n * 10 ^ e : ℚ) =
        n * 2 ^ (0 : Int) / ((10 ^ (-e).toNat : Nat) * 2 ^ (0 : Int)) := by
      have power : (10 : ℚ) ^ e = (10 ^ (-e).toNat)⁻¹ := by
        rw [← zpow_natCast, ← zpow_neg, Int.toNat_of_nonneg (by omega), neg_neg]
      rw [power]
      push_cast
      ring
    rw [value] at nearest
    exact unpacked_div canonical nearest

theorem unpack_scaled (pos : 0 < n) (canonical : Canonical m q)
    (nearest : Nearest m q (n * 10 ^ e)) :
    (scaled n e).toModel.unpack = .finite .positive m q canonical.pos := by
  have low := le_of_nearest pos canonical nearest
  have high := ge_of_nearest pos canonical nearest
  unfold scaled
  rw [if_neg (by omega), if_neg (by omega)]
  by_cases short : n < 2 ^ 53 ∧ e.natAbs ≤ 22
  · exact unpack_ofScientific_short pos short.1 short.2 canonical nearest
  · have exponent : (if e < 0 then Int.negOfNat e.natAbs else Int.ofNat e.natAbs) = e := by
      split
      · rw [Int.negOfNat_eq]
        change -(e.natAbs : Int) = e
        omega
      · change (e.natAbs : Int) = e
        omega
    unfold Float.ofScientific
    simp only [dif_neg short, decide_eq_true_eq, exponent]
    change (Float.ofModel (Float.Model.pack (UnpackedFloat.ofScientific _ _ _))).toModel.unpack = _
    rw [unpack_ofScientific_long pos canonical nearest]
    exact unpack_ofModel_pack canonical

end

end Decimal
end SpanQuery
