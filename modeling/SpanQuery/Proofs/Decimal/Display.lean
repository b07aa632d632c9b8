import SpanQuery.Proofs.Decimal.Digits
import SpanQuery.Proofs.Decimal.Scaled
import SpanQuery.Proofs.Token.Lexeme

namespace SpanQuery
open Float.Model UnpackedFloat

/-! ## Doubles and their views -/

namespace Binary64

theorem toBits_ofBits {n : Nat} (size : n < 2 ^ 64) {negative : Bool} {m : Nat} {q : Int}
    (h : ofBits n = .finite negative m q) : (finite negative m q).toBits = n := by
  have hidden : hiddenBit = 2 ^ 52 := rfl
  have sign : (if n / 2 ^ 63 % 2 == 1 then 2 ^ 63 else 0) = n / 2 ^ 63 * 2 ^ 63 := by
    obtain zero | one : n / 2 ^ 63 = 0 ∨ n / 2 ^ 63 = 1 := by omega
    · rw [zero]
      rfl
    · rw [one]
      rfl
  have magnitude : negative = (n / 2 ^ 63 % 2 == 1) ∧ magnitudeBits m q = n % 2 ^ 63 := by
    have stored (pos : 0 < m) : magnitudeBits m q =
        if m < 2 ^ 52 then m else (q + 1075).toNat * 2 ^ 52 + (m - 2 ^ 52) := by
      have canonical := canonical_of_ofBits h pos
      have shifted := @magnitudeBits_shift m 0 q (by simpa using canonical)
      simpa [hidden] using shifted
    have none : magnitudeBits 0 q = 0 := rfl
    unfold ofBits at h
    simp only [hidden] at h
    split at h
    · split at h <;> cases h
    · split at h
      · obtain ⟨rfl, rfl, rfl⟩ := Binary64.finite.inj h
        refine ⟨rfl, ?_⟩
        rcases Nat.eq_zero_or_pos (n % 2 ^ 52) with zero | pos
        · rw [zero, none]
          omega
        · rw [stored pos, if_pos (by omega)]
          omega
      · obtain ⟨rfl, rfl, rfl⟩ := Binary64.finite.inj h
        refine ⟨rfl, ?_⟩
        rw [stored (by omega), if_neg (by omega)]
        omega
  rw [toBits, magnitude.2, magnitude.1]
  change (if n / 2 ^ 63 % 2 == 1 then 2 ^ 63 else 0) + n % 2 ^ 63 = n
  rw [sign]
  omega

theorem exponent_of_zero {x : Float} {negative : Bool} {q : Int}
    (h : ofFloat x = .finite negative 0 q) : q = -1074 := by
  have hidden : hiddenBit = 2 ^ 52 := rfl
  unfold ofFloat ofBits at h
  simp only [hidden] at h
  split at h
  · split at h <;> cases h
  · split at h
    · exact (Binary64.finite.inj h).2.2.symm
    · have none := (Binary64.finite.inj h).2.1
      omega

theorem eq_of_ofFloat {x y : Float} {negative : Bool} {m : Nat} {q : Int}
    (left : ofFloat x = .finite negative m q) (right : ofFloat y = .finite negative m q) :
    x = y := by
  have bits : x.toBits.toNat = y.toBits.toNat :=
    (toBits_ofBits x.toBits.toNat_lt left).symm.trans (toBits_ofBits y.toBits.toNat_lt right)
  obtain ⟨⟨p, valid⟩⟩ := x
  obtain ⟨⟨p', valid'⟩⟩ := y
  obtain rfl : p = p' := UInt64.toNat_inj.1 bits
  rfl

theorem ofFloat_neg {x : Float} {m : Nat} {q : Int} (h : ofFloat x = .finite false m q) :
    ofFloat (-x) = .finite true m q := by
  have negated : -x = Float.ofModel (Float.Model.pack x.toModel.unpack.neg) := rfl
  rw [ofFloat_eq] at h
  rw [ofFloat_eq, negated]
  change ofUnpacked (UnpackedFloat.unpack _ (UnpackedFloat.pack _ _)) = _
  cases view : x.toModel.unpack with
  | notANumber => rw [view] at h; cases h
  | infinity s => rw [view] at h; cases h
  | zero s =>
      rw [view] at h
      cases s
      · cases h
      · cases h
        rfl
  | finite s k e pos =>
      have canonical := canonical_of_unpack view
      rw [view] at h
      cases s
      · cases h
      · cases h
        change ofUnpacked (UnpackedFloat.unpack _ (UnpackedFloat.pack _ (.finite _ _ _ _))) = _
        rw [unpack_pack canonical]
        rfl

end Binary64

/-! ## Digits -/

namespace Decimal

theorem natural_append_zeros (ds : List Char) (n : Nat) :
    natural (ds ++ List.replicate n '0') = natural ds * 10 ^ n := by
  have zeros := @Nat.ofDigitChars_replicate_zero 10 (natural ds) n
  rw [mul_comm, ← zeros]
  exact Nat.ofDigitChars_append 0

theorem natural_zeros_append (ds : List Char) (n : Nat) :
    natural (List.replicate n '0' ++ ds) = natural ds := by
  have zeros := @Nat.ofDigitChars_replicate_zero 10 0 n
  have parts := @Nat.ofDigitChars_append 10 (List.replicate n '0') ds 0
  rw [zeros, Nat.mul_zero] at parts
  exact parts

theorem toDigits_eq (n : Nat) :
    ∃ k, Nat.toDigits 10 n = Layout.significantDigits n ++ List.replicate k '0' := by
  have whole := List.takeWhile_append_dropWhile (p := (· == '0')) (l := (Nat.toDigits 10 n).reverse)
  have zeros : (Nat.toDigits 10 n).reverse.takeWhile (· == '0') = List.replicate
      ((Nat.toDigits 10 n).reverse.takeWhile (· == '0')).length '0' := by
    refine List.eq_replicate_of_mem fun c mem => ?_
    exact eq_of_beq (List.mem_takeWhile_imp (p := (· == '0')) mem)
  refine ⟨((Nat.toDigits 10 n).reverse.takeWhile (· == '0')).length, ?_⟩
  unfold Layout.significantDigits
  rw [← List.reverse_inj, List.reverse_append, List.reverse_replicate, ← zeros,
    List.reverse_reverse, whole]

theorem significantDigits_spec (n : Nat) :
    ∃ k, natural (Layout.significantDigits n) * 10 ^ k = n ∧
      (Layout.significantDigits n).length + k = Shortest.digitCount n := by
  obtain ⟨k, digits⟩ := toDigits_eq n
  refine ⟨k, ?_, ?_⟩
  · rw [← natural_append_zeros, ← digits]
    exact Nat.ofDigitChars_ten_toDigits
  · rw [Shortest.digitCount, digits, List.length_append, List.length_replicate]

theorem unsigned?_whole {whole : List Char} (nonempty : whole ≠ [])
    (digits : ∀ c ∈ whole, c.isDigit) : unsigned? whole = some (scaled (natural whole) 0) := by
  have span := @Lexer.span_isDigit whole [] digits rfl
  rw [List.append_nil] at span
  have filled : whole.isEmpty = false := List.isEmpty_eq_false_iff.2 nonempty
  unfold unsigned?
  rw [span]
  simp [filled, exponent?]

theorem unsigned?_point {whole places : List Char} (nonempty : whole ≠ [])
    (digits : ∀ c ∈ whole, c.isDigit) (fraction : ∀ c ∈ places, c.isDigit) :
    unsigned? (whole ++ '.' :: places) =
      some (scaled (natural (whole ++ places)) (0 - places.length)) := by
  have span := @Lexer.span_isDigit whole ('.' :: places) digits rfl
  have behind := @Lexer.span_isDigit places [] fraction rfl
  rw [List.append_nil] at behind
  have filled : whole.isEmpty = false := List.isEmpty_eq_false_iff.2 nonempty
  unfold unsigned?
  rw [span]
  simp [behind, filled, exponent?, -List.span_eq_takeWhile_dropWhile]

theorem unsigned?_positionalText {ds : List Char} (digits : ∀ c ∈ ds, c.isDigit) (point : Int) :
    ∃ (n : Nat) (e : Int), unsigned? (Layout.plain.positionalText ds point) = some (scaled n e) ∧
      (n * 10 ^ e : ℚ) = natural ds * 10 ^ (point - ds.length) := by
  have zeros := isDigit_zeros
  unfold Layout.positionalText
  split
  · rename_i small
    refine ⟨_, _, @unsigned?_point ['0'] _ (by decide) (List.forall_mem_singleton.2 rfl)
      (List.forall_mem_append.2 ⟨zeros _, digits⟩), ?_⟩
    have leading : ['0'] ++ (List.replicate (-point).toNat '0' ++ ds) =
        List.replicate ((-point).toNat + 1) '0' ++ ds := by
      rw [List.replicate_succ]
      rfl
    rw [leading, natural_zeros_append, List.length_append, List.length_replicate]
    congr 2
    push_cast
    omega
  · split
    · rename_i large
      have nonempty : ds ++ List.replicate (point.toNat - ds.length) '0' ≠ [] := by
        intro none
        have length := congrArg List.length none
        rw [List.length_append, List.length_replicate, List.length_nil] at length
        omega
      change ∃ n e, unsigned? (ds ++ List.replicate _ '0' ++ []) = _ ∧ _
      rw [List.append_nil]
      refine ⟨_, _, unsigned?_whole nonempty (List.forall_mem_append.2 ⟨digits, zeros _⟩), ?_⟩
      rw [natural_append_zeros, zpow_zero, mul_one]
      push_cast
      rw [← zpow_natCast]
      congr 2
      omega
    · have nonempty : ds.take point.toNat ≠ [] := by
        rw [Ne, List.take_eq_nil_iff]
        rintro (none | rfl)
        · omega
        · simp only [List.length_nil] at *
          omega
      refine ⟨_, _, unsigned?_point nonempty (fun c mem => digits c (List.mem_of_mem_take mem))
        (fun c mem => digits c (List.mem_of_mem_drop mem)), ?_⟩
      rw [List.take_append_drop, List.length_drop]
      congr 2
      omega

theorem unsigned?_magnitude {m : Nat} {q : Int} (canonical : Binary64.Canonical m q) :
    ∃ x, unsigned? (Layout.plain.magnitude m q) = some x ∧
      Binary64.ofFloat x = .finite false m q := by
  have nearest := shortest_nearest .up canonical
  have positional : Layout.plain.magnitude m q = Layout.plain.positionalText
      (Layout.significantDigits (shortest .up m q).digits)
      (Shortest.digitCount (shortest .up m q).digits + (shortest .up m q).exponent) := rfl
  rw [positional]
  generalize shortest .up m q = s at *
  obtain ⟨k, value, length⟩ := significantDigits_spec s.digits
  obtain ⟨n, e, reads, same⟩ := unsigned?_positionalText
    (fun c => Lexer.isDigit_of_mem_significantDigits) (Shortest.digitCount s.digits + s.exponent)
  have exact : (n * 10 ^ e : ℚ) = s.digits * 10 ^ s.exponent := by
    rw [same, ← length]
    push_cast
    rw [show ((Layout.significantDigits s.digits).length + k + s.exponent -
        (Layout.significantDigits s.digits).length : Int) = k + s.exponent by ring,
      zpow_add₀ (by norm_num), zpow_natCast, ← mul_assoc]
    congr 1
    exact_mod_cast value
  rw [← exact] at nearest
  refine ⟨_, reads, ?_⟩
  rw [Binary64.ofFloat_eq, unpack_scaled (nearest.digits_pos canonical.pos) canonical nearest]
  rfl

/-- A finite double is read back from its text. -/
theorem read?_chars {x : Float} {negative : Bool} {m : Nat} {q : Int}
    (finite : Binary64.ofFloat x = .finite negative m q) :
    read? (Layout.plain.chars x) = some x := by
  have body : ∃ y, unsigned? (if m = 0 then ['0'] else Layout.plain.magnitude m q) = some y ∧
      Binary64.ofFloat y = .finite false m q := by
    rcases Nat.eq_zero_or_pos m with rfl | pos
    · rw [Binary64.exponent_of_zero finite]
      exact ⟨scaled 0 0, rfl, by decide +kernel⟩
    · rw [if_neg pos.ne']
      exact unsigned?_magnitude (Binary64.canonical_of_ofBits finite pos)
  obtain ⟨y, reads, view⟩ := body
  obtain ⟨s, numeral, text⟩ := Lexer.Numeral.of_finite finite
  obtain ⟨d, ds, rfl, digit⟩ := numeral.head
  have same : Layout.plain.chars x =
      if negative then '-' :: (if m = 0 then ['0'] else Layout.plain.magnitude m q)
      else if m = 0 then ['0'] else Layout.plain.magnitude m q := by
    unfold Layout.chars
    rw [finite]
    rfl
  rw [same] at text ⊢
  cases negative with
  | false =>
      simp only [Bool.false_eq_true, if_false] at text ⊢
      rw [text] at reads ⊢
      rw [read?_of_digit (splitSign_of_digit digit ds) digit, reads,
        Binary64.eq_of_ofFloat finite view]
      rfl
  | true =>
      simp only [if_true, List.cons.injEq, true_and] at text ⊢
      rw [text] at reads ⊢
      rw [read?_of_digit (s := '-' :: d :: ds) rfl digit, reads,
        Binary64.eq_of_ofFloat finite (Binary64.ofFloat_neg view)]
      rfl

end Decimal
end SpanQuery
