import SpanQuery.Proofs.Decimal.Nearest

namespace SpanQuery
open Float.Model UnpackedFloat

namespace Binary64

/-! ## Canonical forms -/

theorem unpack_of_ofFloat {x : Float} {m : Nat} {q : Int} (pos : 0 < m)
    (h : ofFloat x = .finite false m q) : x.toModel.unpack = .finite .positive m q pos := by
  rw [ofFloat_eq] at h
  cases view : x.toModel.unpack with
  | notANumber => rw [view] at h; cases h
  | infinity s => rw [view] at h; cases h
  | zero s =>
      rw [view] at h
      have none : 0 = m := (Binary64.finite.inj h).2.1
      omega
  | finite s k e _ =>
      rw [view] at h
      cases s
      all_goals cases h
      rfl

theorem canonical_of_unpack {x : Float} {s : Sign} {m : Nat} {q : Int} {pos : 0 < m}
    (h : x.toModel.unpack = .finite s m q pos) : Canonical m q := by
  have view := ofFloat_eq x
  rw [h] at view
  exact canonical_of_ofBits view pos

theorem exists_canonical {m : Nat} {q : Int} (pos : 0 < m) (lt : m < 2 ^ 53) (low : -1074 ≤ q)
    (high : q ≤ 971) : ∃ k : Nat, Canonical (m <<< k) (q - k) := by
  have bits : m.log2 < 53 := (Nat.log2_lt pos.ne').2 lt
  let k := min (52 - m.log2) (q + 1074).toNat
  have some : 0 < m <<< k := by
    rw [Nat.shiftLeft_eq]
    positivity
  have length : (m <<< k).log2 = m.log2 + k := log2_shiftLeft pos k
  refine ⟨k, some, ?_, by omega, by omega, ?_⟩
  · rw [← Nat.log2_lt some.ne', length]
    omega
  · rcases Nat.lt_or_ge (52 - m.log2) ((q + 1074).toNat + 1) with short | long
    · left
      rw [← Nat.le_log2 some.ne', length]
      omega
    · right
      omega

theorem nearest_self (m : Nat) (q : Int) : Nearest m q (m * 2 ^ q) := by
  have unit : (0 : ℚ) < 2 ^ q := by positivity
  constructor
  · gcongr
    linarith
  · gcongr
    linarith
  · intro _
    constructor
    · gcongr
      linarith
    · gcongr
      linarith
  · intro _ _
    gcongr
    linarith

theorem shiftLeft_mul_zpow (m k : Nat) (q : Int) :
    ((m <<< k : Nat) : ℚ) * 2 ^ (q - k) = m * 2 ^ q := by
  rw [Nat.shiftLeft_eq, zpow_sub₀ two_ne_zero, zpow_natCast]
  push_cast
  field_simp

end Binary64

open Binary64 (Canonical)

/-! ## Operations -/

section
variable {x y : Float} {s t : Sign} {m m' k : Nat} {q q' e : Int} {pos : 0 < m} {pos' : 0 < m'}

theorem unpack_ofModel_pack (canonical : Canonical k e) :
    (Float.ofModel (Float.Model.pack (.finite s k e canonical.pos))).toModel.unpack =
      .finite s k e canonical.pos :=
  Binary64.unpack_pack canonical

theorem unpacked_mul (le : q + q' ≤ max (-1074) (q + q' + (m * m').log2 - 52))
    (canonical : Canonical k e) (nearest : Nearest k e (m * 2 ^ q * (m' * 2 ^ q'))) :
    UnpackedFloat.mul Format.binary64 (.finite s m q pos) (.finite t m' q' pos') =
      .finite (s * t) k e canonical.pos := by
  have product : (m * 2 ^ q * (m' * 2 ^ q') : ℚ) = (m * m' : Nat) * 2 ^ (q + q') := by
    rw [zpow_add₀ two_ne_zero]
    push_cast
    ring
  rw [product] at nearest
  exact roundWithAccuracy_of_nearest (approximates_exact _) le canonical nearest _

theorem log2_le_log2_div {n d : Nat} (nonzero : n ≠ 0) (pos : 0 < d) :
    n.log2 ≤ (n / d).log2 + d.log2 + 1 := by
  rcases Nat.lt_or_ge n.log2 (d.log2 + 1) with short | long
  · omega
  · have quotient : 2 ^ (n.log2 - (d.log2 + 1)) ≤ n / d := by
      rw [Nat.le_div_iff_mul_le pos]
      calc 2 ^ (n.log2 - (d.log2 + 1)) * d ≤ 2 ^ (n.log2 - (d.log2 + 1)) * 2 ^ (d.log2 + 1) :=
            Nat.mul_le_mul_left _ Nat.lt_log2_self.le
        _ = 2 ^ n.log2 := by rw [← pow_add, Nat.sub_add_cancel long]
        _ ≤ n := Nat.log2_self_le nonzero
    have some : n / d ≠ 0 := (lt_of_lt_of_le (by positivity) quotient).ne'
    have bound := (Nat.le_log2 some).2 quotient
    omega

theorem divCore_spec (pos : 0 < m) (pos' : 0 < m') (q q' : Int) :
    let (k, e, accuracy) := divCore Format.binary64 m q m' q'
    e ≤ max (-1074) (e + k.log2 - 52) ∧
      ∃ y : ℚ, Approximates (.ofMantissaAndAccuracy k accuracy) y ∧
        y * 2 ^ e = m * 2 ^ q / (m' * 2 ^ q') := by
  have target : Format.binary64.targetExponent (totalExponent m q - totalExponent m' q') =
      max (-1074) ((q - q') + m.log2 - m'.log2 - 53) := by
    simp only [Format.targetExponent, totalExponent, Format.mantissaBits, Format.minExponent]
    norm_num
    omega
  unfold divCore
  simp only [target]
  generalize he : min (q - q') (max (-1074) ((q - q') + m.log2 - m'.log2 - 53)) = e
  obtain ⟨j, hj⟩ : ∃ j : Nat, q - q' - e = j := ⟨(q - q' - e).toNat, by omega⟩
  rw [hj, Int.toNat_natCast]
  have shifted : (m <<< j).log2 = m.log2 + j := Binary64.log2_shiftLeft pos j
  have nonzero : m <<< j ≠ 0 := by
    rw [Nat.shiftLeft_eq]
    positivity
  have digits := log2_le_log2_div nonzero pos'
  rw [shifted] at digits
  refine ⟨by omega, _, approximates_fraction _ (Nat.mod_lt _ pos'), ?_⟩
  have nonzero : (m' : ℚ) ≠ 0 := by exact_mod_cast pos'.ne'
  have whole : ((m <<< j / m' : Nat) : ℚ) + (m <<< j % m' : Nat) / m' = m * 2 ^ j / m' := by
    have parts : ((m <<< j : Nat) : ℚ) = m' * (m <<< j / m' : Nat) + (m <<< j % m' : Nat) := by
      exact_mod_cast (Nat.div_add_mod _ _).symm
    rw [Nat.shiftLeft_eq] at *
    push_cast at parts
    rw [parts]
    field_simp
  rw [whole]
  have power : (2 : ℚ) ^ q = 2 ^ j * 2 ^ e * 2 ^ q' := by
    rw [← zpow_natCast, ← zpow_add₀ two_ne_zero, ← zpow_add₀ two_ne_zero]
    congr 1
    omega
  rw [power]
  have unit : (2 : ℚ) ^ q' ≠ 0 := by positivity
  field_simp

theorem unpacked_div (canonical : Canonical k e)
    (nearest : Nearest k e (m * 2 ^ q / (m' * 2 ^ q'))) :
    UnpackedFloat.div Format.binary64 (.finite s m q pos) (.finite t m' q' pos') =
      .finite (s / t) k e canonical.pos := by
  obtain ⟨le, y, approximates, quotient⟩ := divCore_spec pos pos' q q'
  rw [← quotient] at nearest
  exact roundWithAccuracy_of_nearest approximates le canonical nearest _

theorem Float.unpack_mul (left : x.toModel.unpack = .finite s m q pos)
    (right : y.toModel.unpack = .finite t m' q' pos') (normal : 2 ^ 52 ≤ m')
    (canonical : Canonical k e) (nearest : Nearest k e (m * 2 ^ q * (m' * 2 ^ q'))) :
    (x * y).toModel.unpack = .finite (s * t) k e canonical.pos := by
  have enough : 52 ≤ (m * m').log2 := by
    rw [Nat.le_log2 (by positivity)]
    exact normal.trans (Nat.le_mul_of_pos_left _ pos)
  have product : UnpackedFloat.mul Format.binary64 (.finite s m q pos) (.finite t m' q' pos') =
      .finite (s * t) k e canonical.pos := unpacked_mul (by omega) canonical nearest
  rw [← left, ← right] at product
  change (Float.ofModel (Float.Model.pack (UnpackedFloat.mul _ _ _))).toModel.unpack = _
  rw [product]
  exact unpack_ofModel_pack canonical

theorem Float.unpack_div (left : x.toModel.unpack = .finite s m q pos)
    (right : y.toModel.unpack = .finite t m' q' pos') (canonical : Canonical k e)
    (nearest : Nearest k e (m * 2 ^ q / (m' * 2 ^ q'))) :
    (x / y).toModel.unpack = .finite (s / t) k e canonical.pos := by
  have quotient : UnpackedFloat.div Format.binary64 (.finite s m q pos) (.finite t m' q' pos') =
      .finite (s / t) k e canonical.pos := unpacked_div canonical nearest
  rw [← left, ← right] at quotient
  change (Float.ofModel (Float.Model.pack (UnpackedFloat.div _ _ _))).toModel.unpack = _
  rw [quotient]
  exact unpack_ofModel_pack canonical

end

/-! ## Whole numbers -/

theorem round_of_canonical {m k : Nat} {q : Int} (canonical : Canonical (m <<< k) (q - k))
    (s : Sign) : UnpackedFloat.round Format.binary64 s m q =
      .finite s (m <<< k) (q - k) canonical.pos := by
  have pos : 0 < m := by
    rcases Nat.eq_zero_or_pos m with rfl | pos
    · simpa using canonical.pos
    · exact pos
  have kept := Binary64.log2_of_canonical canonical
  have target : Format.binary64.targetExponent (totalExponent m q) = q - k := by
    rw [Binary64.log2_shiftLeft pos] at kept
    rw [targetExponent_eq]
    omega
  have amount : (q - (q - (k : Int))).toNat = k := by omega
  unfold UnpackedFloat.round decreaseExponent
  simp only [target, amount]
  exact roundWithAccuracy_of_nearest (approximates_exact _) kept.le canonical
    (Binary64.nearest_self _ _) s

theorem unpack_toFloat {n k : Nat} (canonical : Canonical (n <<< k) (0 - k)) :
    n.toUInt64.toFloat.toModel.unpack = .finite .positive (n <<< k) (0 - k) canonical.pos := by
  have le : n ≤ n <<< k := by
    rw [Nat.shiftLeft_eq]
    exact Nat.le_mul_of_pos_right n (by positivity)
  have lt := canonical.lt
  have word : n.toUInt64.toNat = n := Nat.mod_eq_of_lt (by omega)
  have pos : 0 < n := by
    rcases Nat.eq_zero_or_pos n with rfl | pos
    · simpa using canonical.pos
    · exact pos
  have whole : UnpackedFloat.normalize Format.binary64 (n.toUInt64.toNat : Int) 0 .positive =
      .finite .positive (n <<< k) (0 - k) canonical.pos := by
    have positive : compare (n : Int) 0 = .gt := Int.compare_eq_gt.2 (by omega)
    unfold UnpackedFloat.normalize
    simp only [word, positive, Int.toNat_natCast]
    exact round_of_canonical canonical .positive
  change (Float.ofModel (Float.Model.pack (UnpackedFloat.normalize _ _ _ _))).toModel.unpack = _
  rw [whole]
  exact unpack_ofModel_pack canonical

theorem roundToInt_eq (m : Nat) (q : Int) :
    roundToInt .positive m q = ⌊(m * 2 ^ q : ℚ)⌋ := by
  unfold roundToInt decreaseExponent shiftToExponent
  dsimp only
  have approximates := (approximates_exact (m <<< (q - 0).toNat)).shiftRight
    (0 - (q - ↑(q - 0).toNat)).toNat
  have floor := approximates.floor
  have value : ((m <<< (q - 0).toNat : Nat) : ℚ) / 2 ^ (0 - (q - ↑(q - 0).toNat)).toNat =
      m * 2 ^ q := by
    rw [Nat.shiftLeft_eq]
    push_cast
    rw [div_eq_iff (by positivity), mul_assoc, ← zpow_natCast, ← zpow_natCast,
      ← zpow_add₀ two_ne_zero]
    congr 2
    omega
  rw [value] at floor
  exact floor.symm

end SpanQuery
