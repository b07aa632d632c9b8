import SpanQuery.Decimal.Shortest
import SpanQuery.Proofs.Decimal.Nearest

namespace SpanQuery

open Binary64 (Canonical)

namespace Shortest
variable {m c : Nat} {q k : Int}

/-! ## Grids -/

theorem spanUnit_pos (q k : Int) : (0 : ℚ) < spanUnit q k := by
  have pos : 0 < spanUnit q k := by
    unfold spanUnit
    rw [Nat.shiftLeft_eq]
    exact Nat.mul_pos (Nat.pow_pos (by decide)) (by positivity)
  exact_mod_cast pos

theorem gridUnit_mul (q k : Int) :
    (gridUnit q k : ℚ) * 2 ^ (q - 2) = 10 ^ k * spanUnit q k := by
  have tens := zpow_toNat 10 (by norm_num) k
  have twos := zpow_toNat 2 (by norm_num) (q - 2)
  rw [show -(q - 2) = 2 - q by ring] at twos
  unfold gridUnit spanUnit
  rw [Nat.shiftLeft_eq, Nat.shiftLeft_eq]
  change ((10 ^ k.toNat * 2 ^ (2 - q).toNat : Nat) : ℚ) * _ =
    _ * ((10 ^ (-k).toNat * 2 ^ (q - 2).toNat : Nat) : ℚ)
  push_cast
  rw [← tens, ← twos]
  ring

theorem mul_gridUnit (c : Nat) (q k : Int) :
    ((c * gridUnit q k : Nat) : ℚ) * 2 ^ (q - 2) = c * 10 ^ k * spanUnit q k := by
  push_cast
  rw [mul_assoc, gridUnit_mul, mul_assoc]

theorem mul_spanUnit (u : Nat) (q k : Int) :
    ((u * spanUnit q k : Nat) : ℚ) * 2 ^ (q - 2) = u * 2 ^ (q - 2) * spanUnit q k := by
  push_cast
  ring

theorem mul_spanUnit_le (u c : Nat) (q k : Int) :
    u * spanUnit q k ≤ c * gridUnit q k ↔ (u * 2 ^ (q - 2) : ℚ) ≤ c * 10 ^ k := by
  have unit : (0 : ℚ) < 2 ^ (q - 2) := by positivity
  rw [← @Nat.cast_le ℚ, ← mul_le_mul_iff_left₀ unit, mul_spanUnit, mul_gridUnit,
    mul_le_mul_iff_left₀ (spanUnit_pos q k)]

theorem le_mul_spanUnit (u c : Nat) (q k : Int) :
    c * gridUnit q k ≤ u * spanUnit q k ↔ (c * 10 ^ k : ℚ) ≤ u * 2 ^ (q - 2) := by
  have unit : (0 : ℚ) < 2 ^ (q - 2) := by positivity
  rw [← @Nat.cast_le ℚ, ← mul_le_mul_iff_left₀ unit, mul_spanUnit, mul_gridUnit,
    mul_le_mul_iff_left₀ (spanUnit_pos q k)]

theorem zpow_quarter (q : Int) : (2 : ℚ) ^ q = 4 * 2 ^ (q - 2) := by
  rw [zpow_sub₀ two_ne_zero]
  norm_num
  ring

section Bounds
variable (canonical : Canonical m q)
include canonical

theorem cast_low : ((4 * m - gapBelow m q : Nat) : ℚ) = 4 * m - gapBelow m q := by
  have pos := canonical.pos
  have gap : gapBelow m q ≤ 2 := by
    unfold gapBelow
    split <;> decide
  rw [Nat.cast_sub (by omega)]
  push_cast
  rfl

theorem readsBack_iff_even (even : m % 2 = 0) :
    readsBack m q k c ↔ ((4 * m - gapBelow m q) * 2 ^ (q - 2) : ℚ) ≤ c * 10 ^ k ∧
      (c * 10 ^ k : ℚ) ≤ (4 * m + 2) * 2 ^ (q - 2) := by
  unfold readsBack
  dsimp only
  rw [if_pos even, Bool.and_eq_true, decide_eq_true_iff, decide_eq_true_iff, mul_spanUnit_le,
    le_mul_spanUnit, cast_low canonical]
  push_cast
  rfl

theorem readsBack_iff_odd (odd : m % 2 = 1) :
    readsBack m q k c ↔ ((4 * m - gapBelow m q) * 2 ^ (q - 2) : ℚ) < c * 10 ^ k ∧
      (c * 10 ^ k : ℚ) < (4 * m + 2) * 2 ^ (q - 2) := by
  unfold readsBack
  dsimp only
  rw [if_neg (by omega), Bool.and_eq_true, decide_eq_true_iff, decide_eq_true_iff, ← not_le,
    ← not_le, le_mul_spanUnit, mul_spanUnit_le, not_le, not_le, cast_low canonical]
  push_cast
  rfl

theorem readsBack_iff : readsBack m q k c ↔ Nearest m q (c * 10 ^ k) := by
  have unit : (0 : ℚ) < 2 ^ (q - 2) := by positivity
  have low : ((m : ℚ) - 1 / 2) * 2 ^ q = (4 * m - 2) * 2 ^ (q - 2) := by
    rw [zpow_quarter q]
    ring
  have high : ((m : ℚ) + 1 / 2) * 2 ^ q = (4 * m + 2) * 2 ^ (q - 2) := by
    rw [zpow_quarter q]
    ring
  -- Below a power of two the nearest double is half as far away.
  by_cases tight : m = 2 ^ 52 ∧ -1074 < q
  · have even : m % 2 = 0 := by omega
    have one : (gapBelow m q : ℚ) = 1 := congrArg Nat.cast (if_pos tight)
    have gap : ((m : ℚ) - 1 / 4) * 2 ^ q = (4 * m - 1) * 2 ^ (q - 2) := by
      rw [zpow_quarter q]
      ring
    rw [readsBack_iff_even canonical even, one]
    constructor
    · rintro ⟨above, below⟩
      refine ⟨?_, high ▸ below, by omega, fun _ _ => gap ▸ above⟩
      rw [low]
      linarith
    · intro nearest
      exact ⟨gap ▸ nearest.gap tight.1 tight.2, high ▸ nearest.high⟩
  · have two : (gapBelow m q : ℚ) = 2 := congrArg Nat.cast (if_neg tight)
    have none (top : m = 2 ^ 52) (normal : -1074 < q) :
        ((m : ℚ) - 1 / 4) * 2 ^ q ≤ c * 10 ^ k := absurd ⟨top, normal⟩ tight
    rcases Nat.mod_two_eq_zero_or_one m with even | odd
    · rw [readsBack_iff_even canonical even, two, ← low, ← high]
      constructor
      · rintro ⟨above, below⟩
        exact ⟨above, below, by omega, none⟩
      · intro nearest
        exact ⟨nearest.low, nearest.high⟩
    · rw [readsBack_iff_odd canonical odd, two, ← low, ← high]
      constructor
      · rintro ⟨above, below⟩
        exact ⟨above.le, below.le, fun _ => ⟨above, below⟩, none⟩
      · intro nearest
        exact nearest.odd odd

end Bounds

/-! ## The leading digit -/

theorem lt_pow_digitCount (n : Nat) : n < 10 ^ digitCount n :=
  (Nat.length_toDigits_le_iff (by decide) Nat.length_toDigits_pos).1 le_rfl

theorem pow_digitCount_le {n : Nat} (pos : 0 < n) : 10 ^ (digitCount n - 1) ≤ n := by
  rcases Nat.eq_zero_or_pos (digitCount n - 1) with zero | more
  · rw [zero]
    exact pos
  · rw [← not_lt, ← Nat.length_toDigits_le_iff (by decide) more]
    change ¬ digitCount n ≤ digitCount n - 1
    omega

theorem leadingExponent_le (pos : 0 < m) : (10 : ℚ) ^ leadingExponent m q ≤ m * 2 ^ q := by
  have value : (m * 2 ^ q : ℚ) = (m <<< q.toNat : Nat) / (1 <<< (-q).toNat : Nat) := by
    have twos := zpow_toNat 2 two_ne_zero q
    rw [Nat.shiftLeft_eq, Nat.shiftLeft_eq, one_mul]
    push_cast
    rw [eq_div_iff (by positivity), mul_assoc, twos]
  have some : 0 < m <<< q.toNat := by
    rw [Nat.shiftLeft_eq]
    positivity
  have unit : 0 < 1 <<< (-q).toNat := by
    rw [Nat.shiftLeft_eq]
    positivity
  rw [value]
  unfold leadingExponent
  dsimp only
  generalize m <<< q.toNat = num at *
  generalize 1 <<< (-q).toNat = den at *
  have denominator : (0 : ℚ) < den := by exact_mod_cast unit
  split
  · rename_i le
    have digits : 1 ≤ digitCount (num / den) := Nat.length_toDigits_pos
    have whole := pow_digitCount_le (Nat.div_pos le unit)
    rw [Nat.le_div_iff_mul_le unit] at whole
    rw [le_div_iff₀ denominator,
      show (digitCount (num / den) : Int) - 1 = (digitCount (num / den) - 1 : Nat) by omega,
      zpow_natCast]
    exact_mod_cast whole
  · have digits : 1 ≤ digitCount (den / num) := Nat.length_toDigits_pos
    split
    · rename_i exact
      have exact : (num : ℚ) * 10 ^ (digitCount (den / num) - 1) = den := by exact_mod_cast exact
      rw [le_div_iff₀ denominator, ← exact,
        show 1 - (digitCount (den / num) : Int) = -(digitCount (den / num) - 1 : Nat) by omega,
        zpow_neg, zpow_natCast]
      field_simp
      rfl
    · have more := lt_pow_digitCount (den / num)
      rw [Nat.div_lt_iff_lt_mul some] at more
      have more : (den : ℚ) < 10 ^ digitCount (den / num) * num := by exact_mod_cast more
      rw [zpow_neg, zpow_natCast, inv_eq_one_div, div_le_div_iff₀ (by positivity) denominator]
      linarith

/-! ## The search -/

theorem readsBack_of_onGrid {tie : Tie} (h : onGrid tie m q k = some c) : readsBack m q k c := by
  unfold onGrid at h
  dsimp only at h
  split at h
  · cases h
  · rename_i reads _
    rwa [← Option.some.inj h]
  · rename_i _ reads
    rwa [← Option.some.inj h]
  · rename_i reads next
    split at h
    · rwa [← Option.some.inj h]
    · rwa [← Option.some.inj h]
    · rwa [← Option.some.inj h]
    · rw [← Option.some.inj h]
      split <;> assumption

theorem nearest_or_nearest (canonical : Canonical m q)
    (fine : (10 ^ k * 10 ^ 16 : ℚ) ≤ m * 2 ^ q) (below : (c * 10 ^ k : ℚ) ≤ m * 2 ^ q)
    (above : (m * 2 ^ q : ℚ) ≤ (c + 1 : Nat) * 10 ^ k) :
    Nearest m q (c * 10 ^ k) ∨ Nearest m q ((c + 1 : Nat) * 10 ^ k) := by
  have unit : (0 : ℚ) < 2 ^ q := by positivity
  have top : (m : ℚ) + 1 ≤ 2 ^ 53 := by exact_mod_cast canonical.lt
  have next : (((c + 1 : Nat) : ℚ)) * 10 ^ k = c * 10 ^ k + 10 ^ k := by
    push_cast
    ring
  rw [next] at above ⊢
  generalize (10 : ℚ) ^ k = step at *
  -- A step is less than a unit of the last place, so a point that is out of reach above leaves
  -- less than half a unit below.
  by_cases room : (c * step + step : ℚ) < (m + 1 / 2) * 2 ^ q
  · right
    exact ⟨by linarith, room.le, fun _ => ⟨by linarith, room⟩, fun _ _ => by linarith⟩
  · left
    have most : (m : ℚ) * 2 ^ q ≤ (2 ^ 53 - 1) * 2 ^ q := by
      gcongr
      linarith
    rw [not_lt] at room
    refine ⟨by linarith, by linarith, fun _ => ⟨by linarith, by linarith⟩, fun power _ => ?_⟩
    have power : (m : ℚ) = 2 ^ 52 := by exact_mod_cast power
    rw [power] at *
    linarith

theorem exists_onGrid (tie : Tie) (canonical : Canonical m q) :
    ∃ c, onGrid tie m q (leadingExponent m q - 16) = some c := by
  have fine : (10 ^ (leadingExponent m q - 16) * 10 ^ 16 : ℚ) ≤ m * 2 ^ q := by
    have split : (10 : ℚ) ^ (leadingExponent m q - 16) * 10 ^ 16 = 10 ^ leadingExponent m q := by
      rw [← zpow_natCast, ← zpow_add₀ (by norm_num)]
      congr 1
      omega
    rw [split]
    exact leadingExponent_le canonical.pos
  generalize leadingExponent m q - 16 = k at *
  have grid : 0 < gridUnit q k := by
    unfold gridUnit
    rw [Nat.shiftLeft_eq]
    exact Nat.mul_pos (Nat.pow_pos (by decide)) (by positivity)
  have quarters : ((4 * m : Nat) : ℚ) * 2 ^ (q - 2) = m * 2 ^ q := by
    rw [zpow_quarter q]
    push_cast
    ring
  unfold onGrid
  dsimp only
  generalize point : 4 * m * spanUnit q k / gridUnit q k = c
  have below := (le_mul_spanUnit (4 * m) c q k).1 (point ▸ Nat.div_mul_le_self _ _)
  have above : 4 * m * spanUnit q k ≤ (c + 1) * gridUnit q k := by
    rw [← point]
    exact (Nat.lt_div_mul_add grid).le.trans_eq (Nat.succ_mul _ _).symm
  rw [mul_spanUnit_le, quarters] at above
  rw [quarters] at below
  -- Of the two points around the value one reads back if the grid is fine enough.
  have hit := nearest_or_nearest canonical fine below above
  rw [← readsBack_iff canonical, ← readsBack_iff canonical] at hit
  split
  · rename_i miss miss'
    rw [miss, miss'] at hit
    exact absurd hit (by decide)
  · exact ⟨_, rfl⟩
  · exact ⟨_, rfl⟩
  · split <;> exact ⟨_, rfl⟩

end Shortest

theorem shortest_nearest (tie : Tie) {m : Nat} {q : Int} (canonical : Canonical m q) :
    Nearest m q ((shortest tie m q).digits * 10 ^ (shortest tie m q).exponent) := by
  obtain ⟨c, last⟩ := Shortest.exists_onGrid tie canonical
  have found : (((List.range 17).map fun (n : Nat) => Shortest.leadingExponent m q - n).findSome?
      fun k => (Shortest.onGrid tie m q k).map (Scientific.mk · k)).isSome := by
    rw [List.findSome?_isSome_iff]
    refine ⟨Shortest.leadingExponent m q - 16, List.mem_map.2 ⟨16, by decide, rfl⟩, ?_⟩
    rw [last]
    rfl
  obtain ⟨s, found⟩ := Option.isSome_iff_exists.1 found
  have taken : shortest tie m q = s := by
    unfold shortest
    dsimp only
    rw [found]
    rfl
  obtain ⟨k, -, hit⟩ := List.exists_of_findSome?_eq_some found
  obtain ⟨c, point, rfl⟩ := Option.map_eq_some_iff.1 hit
  rw [taken]
  exact (Shortest.readsBack_iff canonical).1 (Shortest.readsBack_of_onGrid point)

end SpanQuery
