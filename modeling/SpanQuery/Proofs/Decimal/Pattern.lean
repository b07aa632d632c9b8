import Mathlib
import SpanQuery.Decimal.Binary64

namespace SpanQuery
open Float.Model UnpackedFloat

namespace Binary64

/-- A mantissa and an exponent as they are in a double. -/
structure Canonical (m : Nat) (e : Int) : Prop where
  pos : 0 < m
  lt : m < 2 ^ 53
  low : -1074 ≤ e
  high : e ≤ 971
  normal : 2 ^ 52 ≤ m ∨ e = -1074

theorem log2_shiftLeft {m : Nat} (pos : 0 < m) (k : Nat) : (m <<< k).log2 = m.log2 + k := by
  rw [Nat.shiftLeft_eq, Nat.log2_eq_iff (by positivity), Nat.pow_add, Nat.add_right_comm,
    Nat.pow_add]
  constructor
  · exact Nat.mul_le_mul_right _ (Nat.log2_self_le pos.ne')
  · exact Nat.mul_lt_mul_of_pos_right Nat.lt_log2_self (by positivity)

theorem log2_of_canonical {m : Nat} {q : Int} (h : Canonical m q) :
    q = max (-1074) (q + m.log2 - 52) := by
  have below := (Nat.log2_lt h.pos.ne').2 h.lt
  rcases h.normal with top | least
  · have bits := (Nat.log2_eq_iff h.pos.ne').2 ⟨top, h.lt⟩
    have low := h.low
    omega
  · omega

/-! ## Packing -/

theorem sign_packComponents (s : Sign) (e : BitVec 11) (m : BitVec 52) :
    Sign.ofBitVec (unpackSign (packComponents Format.binary64 s e m)) = s := by
  have append : unpackSign (packComponents Format.binary64 s e m) = s.toBitVec := by
    refine BitVec.eq_of_getLsbD_eq fun i hi => ?_
    obtain rfl : i = 0 := by omega
    simp only [unpackSign, packComponents, BitVec.getLsbD_cast, BitVec.getLsbD_extractLsb,
      BitVec.getLsbD_append]
    simp
  rw [append]
  cases s <;> rfl

theorem toNat_implicit (m : BitVec 52) : (1#1 ++ m).toNat = 2 ^ 52 + m.toNat := by
  rw [BitVec.toNat_append, ← Nat.shiftLeft_add_eq_or_of_lt m.isLt]
  rfl

theorem ofNat_ne {n k : Nat} (lt : n < 2 ^ 11) (other : n ≠ k % 2 ^ 11) :
    BitVec.ofNat 11 n ≠ BitVec.ofNat 11 k := by
  intro same
  have := congrArg BitVec.toNat same
  rw [BitVec.toNat_ofNat, BitVec.toNat_ofNat, Nat.mod_eq_of_lt lt] at this
  exact other this

theorem unpack_pack {s : Sign} {m : Nat} {e : Int} (h : Canonical m e) :
    UnpackedFloat.unpack Format.binary64
        (UnpackedFloat.pack Format.binary64 (.finite s m e h.pos)) = .finite s m e h.pos := by
  obtain ⟨pos, lt, low, high, normal⟩ := h
  have biased : e + Format.binary64.exponentBias +
      Format.binary64.mantissaBitsWithoutImplicit = e + 1075 := by
    change e + 1023 + 52 = e + 1075
    omega
  obtain ⟨n, hn⟩ : ∃ n : Nat, e + 1075 = n := ⟨(e + 1075).toNat, by omega⟩
  have inRange : ¬ 2 ^ Format.binary64.exponentBits ≤ n + 1 := by
    change ¬ 2048 ≤ n + 1
    omega
  unfold UnpackedFloat.pack
  simp only [biased, hn, Int.toNat_natCast]
  rw [if_neg inRange]
  -- A mantissa without the hidden bit has the pattern of exponent zero.
  by_cases top : 2 ^ 52 ≤ m
  · have bits : m.log2 + 1 = Format.binary64.mantissaBits := by
      have := (Nat.log2_eq_iff pos.ne').2 ⟨top, lt⟩
      rw [this]
      rfl
    rw [if_pos bits]
    have finite : BitVec.ofNat 11 n ≠ -1#11 := ofNat_ne (k := 2047) (by omega) (by omega)
    have positive : BitVec.ofNat 11 n ≠ 0#11 := ofNat_ne (k := 0) (by omega) (by omega)
    unfold UnpackedFloat.unpack
    simp only [unpackMantissa_packComponents, unpackExponent_packComponents,
      sign_packComponents, if_neg finite, if_neg positive]
    congr
    · rw [toNat_implicit, BitVec.toNat_ofNat]
      omega
    · rw [BitVec.toNat_ofNat, Nat.mod_eq_of_lt (by omega)]
      change (n : Int) - (1023 + 52) = e
      omega
  · have bits : ¬ m.log2 + 1 = Format.binary64.mantissaBits := by
      have := (Nat.log2_lt pos.ne').2 (Nat.not_le.1 top)
      change ¬ m.log2 + 1 = 53
      omega
    rw [if_neg bits]
    have least := normal.resolve_left top
    have visible : BitVec.ofNat 52 m ≠ 0#52 := by
      intro same
      have := congrArg BitVec.toNat same
      rw [BitVec.toNat_ofNat, Nat.mod_eq_of_lt (by omega)] at this
      exact pos.ne' this
    have finite : 0#11 ≠ -1#11 := by decide
    unfold UnpackedFloat.unpack
    simp only [unpackMantissa_packComponents, unpackExponent_packComponents,
      sign_packComponents, if_neg finite, dif_neg visible, if_true]
    congr
    · rw [BitVec.toNat_ofNat, Nat.mod_eq_of_lt (by omega)]
    · rw [least]
      rfl

/-! ## The two views of a double -/

theorem toNat_unpackMantissa (b : BitVec 64) :
    (@unpackMantissa Format.binary64 b).toNat = b.toNat % hiddenBit := by
  simp only [unpackMantissa, BitVec.toNat_cast, BitVec.extractLsb_toNat, Format.binary64]
  rfl

theorem toNat_unpackExponent (b : BitVec 64) :
    (@unpackExponent Format.binary64 b).toNat = b.toNat / hiddenBit % 2048 := by
  simp only [unpackExponent, BitVec.toNat_cast, BitVec.extractLsb_toNat, Format.binary64,
    Nat.shiftRight_eq_div_pow]
  rfl

theorem sign_unpackSign (b : BitVec 64) :
    (Sign.ofBitVec (@unpackSign Format.binary64 b) == .negative) =
      (b.toNat / signBit % 2 == 1) := by
  have bit : (@unpackSign Format.binary64 b).toNat = b.toNat / signBit % 2 := by
    simp only [unpackSign, BitVec.toNat_cast, BitVec.extractLsb_toNat, Format.binary64,
      Nat.shiftRight_eq_div_pow]
    rfl
  rw [← bit]
  generalize @unpackSign Format.binary64 b = sign
  revert sign
  decide

def ofUnpacked : UnpackedFloat → Binary64
  | .notANumber => .nan
  | .infinity s => .infinity (s == .negative)
  | .zero s => .finite (s == .negative) 0 leastExponent
  | .finite s m e _ => .finite (s == .negative) m e

theorem ofUnpacked_unpack (b : BitVec 64) :
    ofUnpacked (UnpackedFloat.unpack Format.binary64 b) = ofBits b.toNat := by
  have all :
      @unpackExponent Format.binary64 b = -1#11 ↔ b.toNat / hiddenBit % 2048 = 2047 := by
    rw [← BitVec.toNat_inj, toNat_unpackExponent]
    rfl
  have none : @unpackExponent Format.binary64 b = 0#11 ↔ b.toNat / hiddenBit % 2048 = 0 := by
    rw [← BitVec.toNat_inj, toNat_unpackExponent]
    rfl
  have clear : @unpackMantissa Format.binary64 b = 0#52 ↔ b.toNat % hiddenBit = 0 := by
    rw [← BitVec.toNat_inj, toNat_unpackMantissa]
    rfl
  unfold UnpackedFloat.unpack ofBits
  simp only [all, none, clear]
  split
  · split
    · simp only [ofUnpacked, sign_unpackSign]
    · rfl
  · split
    · rename_i zero
      split
      · rename_i bare
        simp only [ofUnpacked, sign_unpackSign, bare]
      · simp only [ofUnpacked, sign_unpackSign, toNat_unpackExponent, toNat_unpackMantissa, zero]
        rfl
    · simp only [ofUnpacked, sign_unpackSign, toNat_unpackExponent, toNat_unpackMantissa,
        toNat_implicit]
      rfl

theorem ofFloat_eq (x : Float) : ofFloat x = ofUnpacked x.toModel.unpack :=
  (ofUnpacked_unpack x.toModel.toBits.toBitVec).symm

theorem canonical_of_ofBits {n : Nat} {negative : Bool} {m : Nat} {q : Int}
    (h : ofBits n = .finite negative m q) (pos : 0 < m) : Canonical m q := by
  have bound : n % hiddenBit < hiddenBit := Nat.mod_lt _ (by decide)
  have size : hiddenBit = 2 ^ 52 := rfl
  unfold ofBits at h
  simp only at h
  split at h
  · split at h <;> cases h
  · split at h
    · cases h
      exact ⟨pos, by omega, by decide, by decide, .inr rfl⟩
    · cases h
      exact ⟨pos, by omega, by omega, by omega, .inl (by omega)⟩

/-! ## Patterns -/

theorem unpack_pack_zero (s : Sign) :
    UnpackedFloat.unpack Format.binary64 (UnpackedFloat.pack Format.binary64 (.zero s)) =
      .zero s := by
  cases s <;> rfl

theorem ofFloat_ofBits {n : Nat} (size : n < 2 ^ 64) {negative : Bool} {m : Nat} {q : Int}
    (h : ofBits n = .finite negative m q) :
    ofFloat (Float.ofBits (UInt64.ofNat n)) = .finite negative m q := by
  have word : (UInt64.ofNat n).toBitVec.toNat = n := by
    rw [UInt64.toNat_toBitVec, UInt64.toNat_ofNat_of_lt' size]
  rw [← word, ← ofUnpacked_unpack] at h
  have model : ofFloat (Float.ofBits (UInt64.ofNat n)) =
      ofUnpacked (UnpackedFloat.unpack Format.binary64 (UnpackedFloat.pack Format.binary64
        (UnpackedFloat.unpack Format.binary64 (UInt64.ofNat n).toBitVec))) :=
    ofFloat_eq _
  rw [model]
  cases view : UnpackedFloat.unpack Format.binary64 (UInt64.ofNat n).toBitVec with
  | notANumber => rw [view] at h; cases h
  | infinity s => rw [view] at h; cases h
  | zero s => rw [unpack_pack_zero, ← view, h]
  | finite s k e pos =>
      have canonical : Canonical k e := by
        refine @canonical_of_ofBits n (s == .negative) k e ?_ pos
        rw [← word, ← ofUnpacked_unpack, view]
        rfl
      rw [unpack_pack canonical, ← view, h]

theorem magnitudeBits_shift {m k : Nat} {q : Int} (h : Canonical (m <<< k) (q - k)) :
    magnitudeBits m q =
      if m <<< k < hiddenBit then m <<< k
      else (q - k + 1075).toNat * hiddenBit + (m <<< k - hiddenBit) := by
  have pos : 0 < m := by
    rcases Nat.eq_zero_or_pos m with rfl | pos
    · simpa using h.pos
    · exact pos
  have lowest : max leastExponent (q + m.log2 - 52) = q - k := by
    have := log2_of_canonical h
    rw [log2_shiftLeft pos] at this
    rw [this]
    change max (-1074) _ = _
    congr 1
    omega
  have shift : (q - (q - k)).toNat = k := by omega
  have within : ¬ 971 < q - (k : Int) := Int.not_lt.2 h.high
  unfold magnitudeBits
  simp only [lowest]
  rw [if_neg pos.ne', if_pos (show q - (k : Int) ≤ q by omega), shift, if_neg within]

theorem ofBits_toBits {negative : Bool} {m k : Nat} {q : Int} (h : Canonical (m <<< k) (q - k)) :
    (finite negative m q).toBits < 2 ^ 64 ∧
      ofBits (finite negative m q).toBits = .finite negative (m <<< k) (q - k) := by
  have hidden : hiddenBit = 2 ^ 52 := rfl
  have sign : signBit = 2 ^ 63 := rfl
  rw [toBits, magnitudeBits_shift h]
  obtain ⟨-, lt, low, high, normal⟩ := h
  generalize m <<< k = m' at *
  generalize q - (k : Int) = q' at *
  obtain ⟨n, hn⟩ : ∃ n : Nat, q' + 1075 = n := ⟨(q' + 1075).toNat, by omega⟩
  obtain rfl : q' = n - 1075 := by omega
  have bit : ∃ s : Nat, s ≤ 1 ∧ (if negative then signBit else 0) = s * 2 ^ 63 ∧
      (s == 1) = negative := by
    cases negative
    · exact ⟨0, by decide⟩
    · exact ⟨1, by decide⟩
  obtain ⟨s, le, bit, same⟩ := bit
  rw [bit]
  unfold ofBits
  simp only [hidden, sign]
  by_cases small : m' < 2 ^ 52
  · rw [if_pos small]
    have least := normal.resolve_left (by omega)
    have e1 : (s * 2 ^ 63 + m') / 2 ^ 63 % 2 = s := by omega
    have e2 : (s * 2 ^ 63 + m') / 2 ^ 52 % 2048 = 0 := by omega
    have e3 : (s * 2 ^ 63 + m') % 2 ^ 52 = m' := by omega
    rw [e1, e2, e3, same, least]
    exact ⟨by omega, rfl⟩
  · have biased : ((n : Int) - 1075 + 1075).toNat = n := by omega
    rw [if_neg small, biased]
    have e1 : (s * 2 ^ 63 + (n * 2 ^ 52 + (m' - 2 ^ 52))) / 2 ^ 63 % 2 = s := by omega
    have e2 : (s * 2 ^ 63 + (n * 2 ^ 52 + (m' - 2 ^ 52))) / 2 ^ 52 % 2048 = n := by omega
    have e3 : (s * 2 ^ 63 + (n * 2 ^ 52 + (m' - 2 ^ 52))) % 2 ^ 52 = m' - 2 ^ 52 := by omega
    rw [e1, e2, e3, same, if_neg (by omega), if_neg (by omega)]
    have whole : 2 ^ 52 + (m' - 2 ^ 52) = m' := by omega
    rw [whole]
    exact ⟨by omega, rfl⟩

theorem ofFloat_toFloat {negative : Bool} {m k : Nat} {q : Int} (h : Canonical (m <<< k) (q - k)) :
    ofFloat (finite negative m q).toFloat = .finite negative (m <<< k) (q - k) :=
  ofFloat_ofBits (ofBits_toBits h).1 (ofBits_toBits h).2

end Binary64
end SpanQuery
