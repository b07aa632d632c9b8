import SpanQuery.Calendar.Time
import SpanQuery.Proofs.Decimal.Arithmetic

namespace SpanQuery
open Float.Model UnpackedFloat

namespace Binary64

def value? : Binary64 → Option ℚ
  | .finite negative m q => some (if negative then -(m * 2 ^ q) else m * 2 ^ q)
  | _ => none

end Binary64

open Binary64 (Canonical ofUnpacked)

namespace Calendar

/-! ## Comparisons -/

theorem unpack_zero : (0.0 : Float).toModel.unpack = .zero .positive := rfl

theorem unpack_one : (1.0 : Float).toModel.unpack = .finite .positive (2 ^ 52) (-52) (by decide) :=
  Binary64.unpack_of_ofFloat _ (by decide +kernel)

theorem unpack_ticksPerSecond : (Float.ofInt ticksPerSecond).toModel.unpack =
    .finite .positive (2 ^ 52) (-24) (by decide) :=
  Binary64.unpack_of_ofFloat _ (by decide +kernel)

theorem compare_one {m : Nat} {q : Int} (canonical : Canonical m q) :
    (compare q (-52)).then (compare m (2 ^ 52)) = .lt ↔ (m * 2 ^ q : ℚ) < 1 := by
  obtain ⟨pos, lt, low, -, normal⟩ := canonical
  have unit : (0 : ℚ) < 2 ^ q := by positivity
  rcases lt_trichotomy q (-52) with less | rfl | more
  · rw [Int.compare_eq_lt.2 less]
    refine iff_of_true rfl ?_
    have short : (m : ℚ) < 2 ^ 53 := by exact_mod_cast lt
    calc (m * 2 ^ q : ℚ) < 2 ^ 53 * 2 ^ q := by gcongr
      _ = 2 ^ (53 + q) := by rw [zpow_add₀ two_ne_zero]; rfl
      _ ≤ 1 := zpow_le_one_of_nonpos₀ one_le_two (by omega)
  · have top : 2 ^ 52 ≤ m := normal.resolve_right (by decide)
    have large : (2 ^ 52 : ℚ) ≤ m := by exact_mod_cast top
    refine iff_of_false ?_ ?_
    · rw [Int.compare_eq_eq.2 rfl, Ordering.eq_then, Nat.compare_eq_lt]
      omega
    · rw [not_lt]
      calc (1 : ℚ) = 2 ^ 52 * 2 ^ (-52 : Int) := by norm_num
        _ ≤ m * 2 ^ (-52 : Int) := by gcongr
  · have top : 2 ^ 52 ≤ m := normal.resolve_right (by omega)
    have large : (2 ^ 52 : ℚ) ≤ m := by exact_mod_cast top
    rw [Int.compare_eq_gt.2 more]
    refine iff_of_false (by rintro ⟨⟩) ?_
    rw [not_lt]
    calc (1 : ℚ) ≤ 2 ^ (52 + q) := one_le_zpow₀ one_le_two (by omega)
      _ = 2 ^ 52 * 2 ^ q := by rw [zpow_add₀ two_ne_zero]; rfl
      _ ≤ m * 2 ^ q := by gcongr

theorem mem_unit_iff (x : Float) :
    0.0 ≤ x ∧ x < 1.0 ↔ ∃ f : ℚ, (Binary64.ofFloat x).value? = some f ∧ 0 ≤ f ∧ f < 1 := by
  have le : 0.0 ≤ x ↔ UnpackedFloat.le (.zero .positive) x.toModel.unpack := by
    rw [← unpack_zero]
    exact decide_eq_true_iff
  have lt : x < 1.0 ↔ UnpackedFloat.lt x.toModel.unpack
      (.finite .positive (2 ^ 52) (-52) (by decide)) := by
    rw [← unpack_one]
    exact decide_eq_true_iff
  rw [le, lt, Binary64.ofFloat_eq]
  cases view : x.toModel.unpack with
  | notANumber => exact iff_of_false (by decide) (by rintro ⟨f, ⟨⟩, -⟩)
  | infinity s => cases s <;> exact iff_of_false (by decide) (by rintro ⟨f, ⟨⟩, -⟩)
  | zero s =>
      refine iff_of_true (by cases s <;> decide) ⟨0, ?_, le_rfl, one_pos⟩
      simp [ofUnpacked, Binary64.value?]
  | finite s m q pos =>
      have some : (0 : ℚ) < m * 2 ^ q := by positivity
      cases s with
      | negative =>
          refine iff_of_false (by rintro ⟨⟨⟩, -⟩) ?_
          rintro ⟨f, value, nonneg, -⟩
          have negative : -(m * 2 ^ q : ℚ) = f := Option.some.inj value
          linarith
      | positive =>
          have less := compare_one (Binary64.canonical_of_unpack view)
          constructor
          · rintro ⟨-, below⟩
            exact ⟨m * 2 ^ q, rfl, some.le, less.1 (Option.some.inj (eq_of_beq below))⟩
          · rintro ⟨f, value, -, below⟩
            obtain rfl : (m * 2 ^ q : ℚ) = f := Option.some.inj value
            exact ⟨rfl, beq_of_eq (congrArg Option.some (less.2 below))⟩

/-! ## Ticks -/

theorem ticks_of_finite {x : Float} {m : Nat} {q : Int} {pos : 0 < m}
    (view : x.toModel.unpack = .finite .positive m q pos) (fraction : (m * 2 ^ q : ℚ) < 1) :
    ((x * Float.ofInt ticksPerSecond).toUInt64.toNat : Int) = ⌊(m * 2 ^ q * 2 ^ 28 : ℚ)⌋ := by
  have canonical := Binary64.canonical_of_unpack view
  have whole : (1 : ℚ) ≤ m := by exact_mod_cast pos
  have negative : q < 0 := by
    by_contra large
    have unit : (1 : ℚ) ≤ 2 ^ q := one_le_zpow₀ one_le_two (by omega)
    nlinarith
  have low := canonical.low
  obtain ⟨k, moved⟩ :=
    Binary64.exists_canonical (q := q + 28) pos canonical.lt (by omega) (by omega)
  have exact : ((m <<< k : Nat) * 2 ^ (q + 28 - k) : ℚ) = m * 2 ^ q * 2 ^ 28 := by
    rw [Binary64.shiftLeft_mul_zpow, zpow_add₀ two_ne_zero, mul_assoc]
    rfl
  have nearest : Nearest (m <<< k) (q + 28 - k)
      (m * 2 ^ q * ((2 ^ 52 : Nat) * 2 ^ (-24 : Int))) := by
    have second : (((2 ^ 52 : Nat) : ℚ) * 2 ^ (-24 : Int)) = 2 ^ 28 := by norm_num
    rw [second, ← exact]
    exact Binary64.nearest_self _ _
  -- A power of two only moves the exponent, so the product is exact.
  have product := Float.unpack_mul view unpack_ticksPerSecond le_rfl moved nearest
  have floor := roundToInt_eq (m <<< k) (q + 28 - k)
  rw [exact] at floor
  have bound : ⌊(m * 2 ^ q * 2 ^ 28 : ℚ)⌋ < 2 ^ 28 := by
    rw [Int.floor_lt]
    push_cast
    linarith
  have nonneg : 0 ≤ ⌊(m * 2 ^ q * 2 ^ 28 : ℚ)⌋ := Int.floor_nonneg.2 (by positivity)
  change ((x * Float.ofInt ticksPerSecond).toModel.unpack.toUInt64.toNat : Int) = _
  rw [product]
  change ((UInt64.ofNatClamp (roundToInt .positive _ _).toNat).toNat : Int) = _
  have small : ⌊(m * 2 ^ q * 2 ^ 28 : ℚ)⌋.toNat < UInt64.size := by
    change _ < 18446744073709551616
    omega
  rw [floor, UInt64.ofNatClamp, dif_pos small, UInt64.toNat_ofNatLT]
  omega

theorem ticks_of_value {x : Float} {f : ℚ} (value : (Binary64.ofFloat x).value? = some f)
    (nonneg : 0 ≤ f) (below : f < 1) :
    ((x * Float.ofInt ticksPerSecond).toUInt64.toNat : Int) = ⌊f * ticksPerSecond⌋ := by
  have second : ((ticksPerSecond : Int) : ℚ) = 2 ^ 28 := by norm_num [ticksPerSecond]
  rw [second]
  rw [Binary64.ofFloat_eq] at value
  cases view : x.toModel.unpack with
  | notANumber => rw [view] at value; cases value
  | infinity s => rw [view] at value; cases value
  | zero s =>
      obtain rfl : f = 0 := by
        rw [view] at value
        simpa [ofUnpacked, Binary64.value?] using value.symm
      rw [zero_mul, Int.floor_zero]
      change ((Float.Model.pack (UnpackedFloat.mul _ _ _)).unpack.toUInt64.toNat : Int) = 0
      rw [view, unpack_ticksPerSecond]
      cases s <;> rfl
  | finite s m q pos =>
      have some : (0 : ℚ) < m * 2 ^ q := by positivity
      rw [view] at value
      cases s with
      | negative =>
          have negative : -(m * 2 ^ q : ℚ) = f := Option.some.inj value
          linarith
      | positive =>
          obtain rfl : (m * 2 ^ q : ℚ) = f := Option.some.inj value
          exact ticks_of_finite view below

theorem fractionTicks?_eq_some_iff {x : Float} {n : Nat} :
    fractionTicks? x = some n ↔
      ∃ f : ℚ, (Binary64.ofFloat x).value? = some f ∧ 0 ≤ f ∧ f < 1 ∧
        (n : Int) = ⌊f * ticksPerSecond⌋ := by
  unfold fractionTicks?
  split
  · rename_i fraction
    obtain ⟨f, value, nonneg, below⟩ := (mem_unit_iff x).1 fraction
    have ticks := ticks_of_value value nonneg below
    constructor
    · intro same
      rw [← Option.some.inj same]
      exact ⟨f, value, nonneg, below, ticks⟩
    · rintro ⟨g, value', -, -, whole⟩
      obtain rfl : f = g := Option.some.inj (value.symm.trans value')
      rw [← whole] at ticks
      exact congrArg some (Int.ofNat.inj ticks)
  · rename_i other
    refine iff_of_false (by rintro ⟨⟩) ?_
    rintro ⟨f, value, nonneg, below, -⟩
    exact other ((mem_unit_iff x).2 ⟨f, value, nonneg, below⟩)

end Calendar
end SpanQuery
