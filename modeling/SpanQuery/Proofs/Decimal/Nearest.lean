import SpanQuery.Proofs.Decimal.Pattern

namespace SpanQuery
open Float.Model UnpackedFloat

open Binary64 (Canonical)

/-! ## Residues -/

theorem zpow_toNat (b : ℚ) (nonzero : b ≠ 0) (n : Int) :
    b ^ n * b ^ (-n).toNat = b ^ n.toNat := by
  rw [← zpow_natCast, ← zpow_natCast, ← zpow_add₀ nonzero]
  congr 1
  omega

/-- What an extended mantissa knows of a number: its whole part, whether the rest reaches a half,
and whether anything is left. -/
def Approximates (em : ExtendedMantissa) (y : ℚ) : Prop :=
  ∃ r : ℚ, 0 ≤ r ∧ r < 1 / 2 ∧ y = em.mantissa + (if em.roundBit then 1 / 2 else 0) + r ∧
    (em.stickyBit = true ↔ r ≠ 0)

theorem approximates_exact (m : Nat) :
    Approximates (.ofMantissaAndAccuracy m .exact) m :=
  ⟨0, le_rfl, by norm_num, by simp [ExtendedMantissa.ofMantissaAndAccuracy],
    by simp [ExtendedMantissa.ofMantissaAndAccuracy]⟩

theorem approximates_fraction (m : Nat) {num den : Nat} (lt : num < den) :
    Approximates (.ofMantissaAndAccuracy m (accuracyOfFraction num den)) (m + num / den) := by
  have pos : (0 : ℚ) < den := by exact_mod_cast (Nat.zero_le _).trans_lt lt
  have below : (num : ℚ) < den := by exact_mod_cast lt
  unfold accuracyOfFraction
  split
  · rename_i zero
    simpa [zero] using approximates_exact m
  · rename_i nonzero
    have some : (0 : ℚ) < num := by exact_mod_cast Nat.pos_of_ne_zero nonzero
    have frac : (0 : ℚ) < num / den := by positivity
    rcases lt_trichotomy (2 * num) den with less | half | more
    · rw [Nat.compare_eq_lt.2 less]
      have less : (2 * num : ℚ) < den := by exact_mod_cast less
      refine ⟨num / den, frac.le, ?_, ?_, ?_⟩
      · rw [div_lt_iff₀ pos]
        linarith
      · simp [ExtendedMantissa.ofMantissaAndAccuracy]
      · simp [ExtendedMantissa.ofMantissaAndAccuracy, frac.ne']
    · rw [Nat.compare_eq_eq.2 half]
      have half : (2 * num : ℚ) = den := by exact_mod_cast half
      refine ⟨0, le_rfl, by norm_num, ?_, ?_⟩
      · have : (num / den : ℚ) = 1 / 2 := by
          rw [div_eq_iff pos.ne']
          linarith
        simp [ExtendedMantissa.ofMantissaAndAccuracy, this]
      · simp [ExtendedMantissa.ofMantissaAndAccuracy]
    · rw [Nat.compare_eq_gt.2 more]
      have more : (den : ℚ) < 2 * num := by exact_mod_cast more
      have above : (1 / 2 : ℚ) < num / den := by
        rw [lt_div_iff₀ pos]
        linarith
      have less : (num / den : ℚ) < 1 := (div_lt_one pos).2 below
      refine ⟨num / den - 1 / 2, by linarith, by linarith, ?_, ?_⟩
      · simp [ExtendedMantissa.ofMantissaAndAccuracy]
      · have : (num / den - 1 / 2 : ℚ) ≠ 0 := by linarith
        simpa [ExtendedMantissa.ofMantissaAndAccuracy] using this

namespace Approximates
variable {em : ExtendedMantissa} {y : ℚ}

theorem shiftRightOne (h : Approximates em y) : Approximates em.shiftRightOne (y / 2) := by
  obtain ⟨r, nonneg, lt, eq, sticky⟩ := h
  obtain ⟨m, round, more⟩ := em
  have parts : (m : ℚ) = 2 * (m / 2 : Nat) + (m % 2 : Nat) := by
    exact_mod_cast (Nat.div_add_mod m 2).symm
  refine ⟨(if round then 1 / 4 else 0) + r / 2, ?_, ?_, ?_, ?_⟩
  · split <;> linarith
  · split <;> linarith
  · simp only at eq
    rw [eq, ExtendedMantissa.shiftRightOne, parts]
    rcases Nat.mod_two_eq_zero_or_one m with even | odd
    · rw [even]
      cases round <;> simp <;> ring
    · rw [odd]
      cases round <;> simp <;> ring
  · simp only [ExtendedMantissa.shiftRightOne, Bool.or_eq_true]
    simp only at sticky
    rw [sticky]
    cases round with
    | true =>
        have : (1 / 4 : ℚ) + r / 2 ≠ 0 := by linarith
        simpa using this
    | false => simp

theorem shiftRight (h : Approximates em y) (n : Nat) : Approximates (em >>> n) (y / 2 ^ n) := by
  change Approximates (n.repeat ExtendedMantissa.shiftRightOne em) _
  induction n with
  | zero => simpa [Nat.repeat] using h
  | succ n ih =>
      rw [pow_succ, ← div_div]
      exact ih.shiftRightOne

theorem floor (h : Approximates em y) : ⌊y⌋ = em.mantissa := by
  obtain ⟨r, nonneg, lt, rfl, -⟩ := h
  rw [Int.floor_eq_iff]
  push_cast
  constructor <;> split <;> linarith

theorem roundedMantissa_eq (h : Approximates em y) {m : Nat} (low : (m : ℚ) - 1 / 2 ≤ y)
    (high : y ≤ m + 1 / 2) (odd : m % 2 = 1 → (m : ℚ) - 1 / 2 < y ∧ y < m + 1 / 2) :
    em.roundedMantissa = m := by
  obtain ⟨r, nonneg, lt, rfl, sticky⟩ := h
  obtain ⟨k, round, more⟩ := em
  cases round with
  | false =>
      simp only [Bool.false_eq_true, if_false, add_zero] at low high odd
      have le : m < k + 1 := by
        have : (m : ℚ) < (k + 1 : Nat) := by push_cast; linarith
        exact_mod_cast this
      have ge : k < m + 1 := by
        have : (k : ℚ) < (m + 1 : Nat) := by push_cast; linarith
        exact_mod_cast this
      obtain rfl : k = m := by omega
      cases more <;> rfl
  | true =>
      simp only [if_true] at low high odd
      have le : m < k + 2 := by
        have : (m : ℚ) < (k + 2 : Nat) := by push_cast; linarith
        exact_mod_cast this
      have ge : k < m + 1 := by
        have : (k : ℚ) < (m + 1 : Nat) := by push_cast; linarith
        exact_mod_cast this
      -- With nothing left the number lies halfway, and the even mantissa is meant.
      cases more with
      | false =>
          have none : r = 0 := by simpa using sticky
          subst none
          change k + k % 2 = m
          obtain rfl | rfl : m = k ∨ m = k + 1 := by omega
          · have : ¬ m % 2 = 1 := fun one => by
              have := (odd one).2
              linarith
            omega
          · have : ¬ (k + 1) % 2 = 1 := fun one => by
              have := (odd one).1
              push_cast at this
              linarith
            omega
      | true =>
          have some : 0 < r := lt_of_le_of_ne nonneg (Ne.symm (by simpa using sticky))
          change k + 1 = m
          have : k < m := by
            have : (k : ℚ) < m := by linarith
            exact_mod_cast this
          omega

end Approximates

/-! ## Nearest doubles -/

/-- The numbers that are nearer to `m * 2 ^ q` than to the doubles beside it, and those halfway if
the mantissa is even. -/
structure Nearest (m : Nat) (q : Int) (y : ℚ) : Prop where
  low : ((m : ℚ) - 1 / 2) * 2 ^ q ≤ y
  high : y ≤ (m + 1 / 2) * 2 ^ q
  odd : m % 2 = 1 → ((m : ℚ) - 1 / 2) * 2 ^ q < y ∧ y < (m + 1 / 2) * 2 ^ q
  gap : m = 2 ^ 52 → -1074 < q → ((m : ℚ) - 1 / 4) * 2 ^ q ≤ y

theorem Nearest.pos {m : Nat} {q : Int} {y : ℚ} (h : Nearest m q y) (pos : 0 < m) : 0 < y := by
  have whole : (1 : ℚ) ≤ m := by exact_mod_cast pos
  calc (0 : ℚ) < (m - 1 / 2) * 2 ^ q := mul_pos (by linarith) (by positivity)
    _ ≤ y := h.low

theorem Nearest.digits_pos {m n : Nat} {q e : Int} (h : Nearest m q (n * 10 ^ e)) (pos : 0 < m) :
    0 < n := by
  rcases Nat.eq_zero_or_pos n with rfl | some
  · have none := h.pos pos
    rw [Nat.cast_zero, zero_mul] at none
    exact absurd none (lt_irrefl 0)
  · exact some

theorem targetExponent_eq (m : Nat) (e : Int) :
    Format.binary64.targetExponent (totalExponent m e) = max (-1074) (e + m.log2 - 52) := by
  simp only [Format.targetExponent, totalExponent, Format.mantissaBits, Format.minExponent]
  norm_num
  omega

structure Quantum (t : Int) (y : ℚ) : Prop where
  least : -1074 ≤ t
  above : y < 2 ^ (t + 53)
  below : t = -1074 ∨ (2 : ℚ) ^ (t + 52) ≤ y

theorem quantum_of_approximates {em : ExtendedMantissa} {y : ℚ} (h : Approximates em y) {e : Int}
    (le : e ≤ max (-1074) (e + em.mantissa.log2 - 52)) :
    Quantum (max (-1074) (e + em.mantissa.log2 - 52)) (y * 2 ^ e) := by
  have floor := h.floor
  obtain ⟨low, high⟩ := Int.floor_eq_iff.1 floor
  have pos : (0 : ℚ) < 2 ^ e := by positivity
  have below : em.mantissa + 1 ≤ 2 ^ (em.mantissa.log2 + 1) := Nat.lt_log2_self
  have upper : y * 2 ^ e < 2 ^ (e + em.mantissa.log2 + 1) := by
    have : y < 2 ^ (em.mantissa.log2 + 1) := by
      refine high.trans_le ?_
      exact_mod_cast below
    calc y * 2 ^ e < 2 ^ (em.mantissa.log2 + 1) * 2 ^ e := by gcongr
      _ = 2 ^ (e + em.mantissa.log2 + 1) := by
        rw [← zpow_natCast, ← zpow_add₀ two_ne_zero]
        congr 1
        push_cast
        ring
  refine ⟨le_max_left _ _, upper.trans_le (zpow_le_zpow_right₀ one_le_two (by omega)), ?_⟩
  rcases Nat.eq_zero_or_pos em.mantissa with zero | some
  · left
    rw [zero] at le ⊢
    simp only [Nat.log2_zero] at *
    omega
  · rcases max_choice (-1074) (e + em.mantissa.log2 - 52) with least | normal
    · exact .inl least
    · right
      rw [normal]
      have top : (2 : ℚ) ^ em.mantissa.log2 ≤ y := by
        refine le_trans ?_ low
        exact_mod_cast Nat.log2_self_le some.ne'
      calc (2 : ℚ) ^ (e + em.mantissa.log2 - 52 + 52) = 2 ^ em.mantissa.log2 * 2 ^ e := by
            rw [← zpow_natCast, ← zpow_add₀ two_ne_zero]
            congr 1
            ring
        _ ≤ y * 2 ^ e := by gcongr

theorem Nearest.quantum {m : Nat} {q t : Int} {y : ℚ} (h : Nearest m q y)
    (canonical : Canonical m q) (quantum : Quantum t y) :
    t = q ∨ t = q - 1 ∧ m = 2 ^ 52 ∧ -1074 < q := by
  obtain ⟨pos, lt, low, -, normal⟩ := canonical
  obtain ⟨least, above, below⟩ := quantum
  have unit : (0 : ℚ) < 2 ^ q := by positivity
  have under : y < 2 ^ (q + 53) := by
    have : (m : ℚ) + 1 / 2 < 2 ^ 53 := by
      have : (m : ℚ) + 1 ≤ 2 ^ 53 := by exact_mod_cast lt
      linarith
    calc y ≤ (m + 1 / 2) * 2 ^ q := h.high
      _ < 2 ^ 53 * 2 ^ q := by gcongr
      _ = 2 ^ (q + 53) := by rw [add_comm q, zpow_add₀ two_ne_zero]; rfl
  have le : t ≤ q := by
    rcases below with rfl | below
    · exact low
    · have := (zpow_lt_zpow_iff_right₀ one_lt_two).1 (below.trans_lt under)
      omega
  rcases le.lt_or_eq with less | same
  -- Numbers just below a power of two are rounded up to it, from a smaller exponent.
  · right
    have top : 2 ^ 52 ≤ m := normal.resolve_right (by omega)
    have short : y < 2 ^ 52 * 2 ^ q := by
      refine above.trans_le ?_
      have : (2 : ℚ) ^ 52 * 2 ^ q = 2 ^ (q + 52) := by
        rw [add_comm q, zpow_add₀ two_ne_zero]
        rfl
      rw [this]
      exact zpow_le_zpow_right₀ one_le_two (by omega)
    have exact : m = 2 ^ 52 := by
      by_contra other
      have : (2 : ℚ) ^ 52 + 1 ≤ m := by exact_mod_cast Nat.lt_of_le_of_ne top (Ne.symm other)
      have : (2 : ℚ) ^ 52 * 2 ^ q ≤ ((m : ℚ) - 1 / 2) * 2 ^ q := by
        gcongr
        linarith
      linarith [h.low]
    have near : (2 : ℚ) ^ (q + 51) < y := by
      refine lt_of_lt_of_le ?_ (h.gap exact (by omega))
      rw [exact, add_comm q, zpow_add₀ two_ne_zero]
      gcongr
      norm_num
    have := (zpow_lt_zpow_iff_right₀ one_lt_two).1 (near.trans above)
    exact ⟨by omega, exact, by omega⟩
  · exact .inl same

theorem shiftToTargetExponent_exact {m : Nat} {q : Int} (k : Nat)
    (target : Format.binary64.targetExponent (totalExponent (m <<< k) (q - k)) = q) :
    shiftToTargetExponent Format.binary64 (m <<< k) (q - k) .exact = (⟨m, false, false⟩, q) := by
  have amount : (q - (q - (k : Int))).toNat = k := by omega
  unfold shiftToTargetExponent shiftToExponent
  simp only [target, amount, Prod.mk.injEq]
  refine ⟨?_, by omega⟩
  change Nat.repeat ExtendedMantissa.shiftRightOne k ⟨m <<< k, false, false⟩ = _
  clear target amount
  induction k generalizing m with
  | zero => rfl
  | succ k ih =>
      have double : m <<< (k + 1) = (m <<< 1) <<< k := by rw [Nat.add_comm, Nat.shiftLeft_add]
      rw [Nat.repeat, double, ih]
      simp [ExtendedMantissa.shiftRightOne, Nat.shiftLeft_eq]

theorem shifted_of_approximates {k : Nat} {e : Int} {accuracy : Accuracy} {y : ℚ}
    (approximates : Approximates (.ofMantissaAndAccuracy k accuracy) y)
    (le : e ≤ max (-1074) (e + k.log2 - 52)) :
    ∃ em t, shiftToTargetExponent Format.binary64 k e accuracy = (em, t) ∧
      Approximates em (y * 2 ^ e / 2 ^ t) ∧ Quantum t (y * 2 ^ e) := by
  have mantissa : (ExtendedMantissa.ofMantissaAndAccuracy k accuracy).mantissa = k := by
    rcases accuracy with _ | (_ | _ | _) <;> rfl
  have quantum := quantum_of_approximates approximates (e := e) (by rwa [mantissa])
  rw [mantissa] at quantum
  refine ⟨ExtendedMantissa.ofMantissaAndAccuracy k accuracy >>>
    (max (-1074) (e + k.log2 - 52) - e).toNat, _, ?_, ?_, quantum⟩
  · unfold shiftToTargetExponent shiftToExponent
    rw [targetExponent_eq, Prod.mk.injEq]
    exact ⟨rfl, by omega⟩
  · have shifted := approximates.shiftRight (max (-1074) (e + k.log2 - 52) - e).toNat
    generalize max (-1074) (e + k.log2 - 52) = t at *
    have scale : (2 : ℚ) ^ t = 2 ^ (t - e).toNat * 2 ^ e := by
      rw [← zpow_natCast, ← zpow_add₀ two_ne_zero]
      congr 1
      omega
    have same : y * 2 ^ e / 2 ^ t = y / 2 ^ (t - e).toNat := by
      rw [scale]
      field_simp
    rwa [same]

section Rounded
variable {em : ExtendedMantissa} {m : Nat} {q : Int} {z : ℚ}

theorem rounded_level (canonical : Canonical m q) (nearest : Nearest m q z)
    (approximates : Approximates em (z / 2 ^ q)) :
    shiftToTargetExponent Format.binary64 em.roundedMantissa q .exact =
      (⟨m, false, false⟩, q) := by
  have unit : (0 : ℚ) < 2 ^ q := by positivity
  have rounded : em.roundedMantissa = m := by
    refine approximates.roundedMantissa_eq ?_ ?_ ?_
    · rw [le_div_iff₀ unit]
      exact nearest.low
    · rw [div_le_iff₀ unit]
      exact nearest.high
    · rw [lt_div_iff₀ unit, div_lt_iff₀ unit]
      exact nearest.odd
  have kept : Format.binary64.targetExponent (totalExponent m q) = q := by
    rw [targetExponent_eq, ← Binary64.log2_of_canonical canonical]
  have second := @shiftToTargetExponent_exact m q 0 (by simpa using kept)
  simp only [Nat.shiftLeft_zero, Nat.cast_zero, sub_zero] at second
  rw [rounded, second]

theorem rounded_below (normal : -1074 < q) (nearest : Nearest (2 ^ 52) q z)
    (above : z < 2 ^ (q - 1 + 53)) (approximates : Approximates em (z / 2 ^ (q - 1))) :
    shiftToTargetExponent Format.binary64 em.roundedMantissa (q - 1) .exact =
      (⟨2 ^ 52, false, false⟩, q) := by
  have unit : (0 : ℚ) < 2 ^ (q - 1) := by positivity
  have half : (2 : ℚ) ^ q = 2 * 2 ^ (q - 1) := by
    rw [zpow_sub_one₀ two_ne_zero]
    ring
  -- One bit too many is left, so the result is shifted once more.
  have rounded : em.roundedMantissa = 2 ^ 53 := by
    have gap := nearest.gap rfl normal
    rw [show q - 1 + 53 = 52 + q by ring, zpow_add₀ two_ne_zero] at above
    rw [half] at gap above
    refine approximates.roundedMantissa_eq ?_ ?_ ?_
    · rw [le_div_iff₀ unit]
      push_cast at gap ⊢
      linarith
    · rw [div_le_iff₀ unit]
      push_cast at above ⊢
      norm_num at above ⊢
      linarith
    · norm_num
  have double : 2 ^ 52 <<< 1 = 2 ^ 53 := rfl
  have target :
      Format.binary64.targetExponent (totalExponent (2 ^ 52 <<< 1) (q - (1 : Nat))) = q := by
    have bits : (2 ^ 53 : Nat).log2 = 53 := by decide
    rw [targetExponent_eq, double, bits]
    omega
  have second := shiftToTargetExponent_exact 1 target
  rw [double, Nat.cast_one] at second
  rw [rounded, second]

end Rounded

theorem roundWithAccuracy_of_nearest {m k : Nat} {q e : Int} {accuracy : Accuracy} {y : ℚ}
    (approximates : Approximates (.ofMantissaAndAccuracy k accuracy) y)
    (le : e ≤ max (-1074) (e + k.log2 - 52)) (canonical : Canonical m q)
    (nearest : Nearest m q (y * 2 ^ e)) (sign : Sign) :
    roundWithAccuracy Format.binary64 sign k e accuracy = .finite sign m q canonical.pos := by
  obtain ⟨em, t, first, shifted, quantum⟩ := shifted_of_approximates approximates le
  have second : shiftToTargetExponent Format.binary64 em.roundedMantissa t .exact =
      (⟨m, false, false⟩, q) := by
    rcases nearest.quantum canonical quantum with rfl | ⟨rfl, rfl, normal⟩
    · exact rounded_level canonical nearest shifted
    · exact rounded_below normal nearest quantum.above shifted
  unfold roundWithAccuracy
  rw [first]
  dsimp only
  rw [second]
  dsimp only
  rw [dif_neg canonical.pos.ne']

end SpanQuery
