import Mathlib.Tactic.IntervalCases
import SpanQuery.Calendar.Stamp
import SpanQuery.Proofs.Decimal.Display

namespace SpanQuery

theorem Text.trimEnd_append {s t : List Char} (nonempty : t ≠ [])
    (visible : ∀ c ∈ t, isBlank c = false) : trimEnd (s ++ t) = s ++ t := by
  obtain ⟨c, cs, last⟩ := List.exists_cons_of_ne_nil (List.reverse_ne_nil_iff.2 nonempty)
  have shown : isBlank c = false := visible c (List.mem_reverse.1 (last ▸ List.mem_cons_self))
  rw [trimEnd, List.reverse_append, last, List.cons_append, List.dropWhile_cons, shown]
  rw [← List.cons_append, ← last]
  simp

namespace Calendar

/-! ## Dates -/

namespace Date

theorem monthLength_eq (year : Int) {month : Nat} (early : month ≤ 10) :
    monthLength year (if month < 10 then month + 3 else month - 9) =
      daysBeforeMonth (month + 1) - daysBeforeMonth month := by
  interval_cases month <;> rfl

theorem isValid_ofMarchDay {year : Int} {n : Nat} (le : n ≤ 365)
    (leap : n = 365 → isLeapYear (year + 1)) : (ofMarchDay year n).IsValid := by
  -- The day lies between the starts of the month that the division finds and of the next one.
  have start : daysBeforeMonth ((5 * n + 2) / 153) ≤ n := by
    unfold daysBeforeMonth
    omega
  have stop : n < daysBeforeMonth ((5 * n + 2) / 153 + 1) := by
    unfold daysBeforeMonth
    omega
  have months : (5 * n + 2) / 153 ≤ 11 := by omega
  have february : (5 * n + 2) / 153 = 11 → 337 ≤ n := by omega
  unfold ofMarchDay
  dsimp only
  generalize (5 * n + 2) / 153 = month at *
  by_cases late : month = 11
  · subst late
    rw [if_neg (by decide)]
    refine ⟨(by decide : 1 ≤ 2), (by decide : 2 ≤ 12), Nat.le_add_left _ _, ?_⟩
    change n - 337 + 1 ≤ if isLeapYear (year + 1) then 29 else 28
    split
    · omega
    · rename_i common
      have other : n ≠ 365 := fun last => common (leap last)
      omega
  · have length := fun y => monthLength_eq y (show month ≤ 10 by omega)
    split
    · rename_i first
      simp only [if_pos first] at length
      unfold IsValid
      dsimp only
      rw [length]
      omega
    · rename_i last
      simp only [if_neg last] at length
      unfold IsValid
      dsimp only
      rw [length]
      omega

theorem isLeapYear_of_last {cycle : Int} {century four : Nat} (fours : four ≤ 24)
    (last : four = 24 → century = 3) :
    isLeapYear (400 * cycle + ↑(100 * century + 4 * four + 3) + 1) := by
  unfold isLeapYear
  rw [decide_eq_true_iff]
  omega

theorem isValid_ofDays (n : Int) : (ofDays n).IsValid := by
  unfold ofDays
  refine isValid_ofMarchDay (by omega) fun last => ?_
  have years : min 3 (((((n + epochDay) % 146097).toNat - 36524 *
      min 3 (((n + epochDay) % 146097).toNat / 36524)) % 1461) / 365) = 3 := by omega
  rw [years]
  exact isLeapYear_of_last (by omega) (by omega)

theorem year_ofDays {n : Int} (low : -719000 ≤ n) (high : n < 2900000) :
    0 ≤ (ofDays n).year ∧ (ofDays n).year < 10000 := by
  unfold ofDays ofMarchDay epochDay
  dsimp only
  split <;> dsimp only <;> omega

end Date

/-! ## Numbers -/

namespace Stamp
variable {width n : Nat} {rest : List Char}

theorem isDigit_of_mem_padded {c : Char} (mem : c ∈ padded width n) : c.isDigit := by
  unfold padded at mem
  rcases List.mem_append.1 mem with zero | digit
  · rw [List.eq_of_mem_replicate zero]
    rfl
  · exact Nat.isDigit_of_mem_toDigits (by decide) (by decide) digit

theorem length_padded (pos : 0 < width) (lt : n < 10 ^ width) :
    (padded width n).length = width := by
  have short := (Nat.length_toDigits_le_iff (b := 10) (by decide) pos).2 lt
  unfold padded
  rw [List.length_append, List.length_replicate]
  omega

theorem natural_padded : Decimal.natural (padded width n) = n := by
  unfold padded
  rw [Decimal.natural_zeros_append]
  exact Nat.ofDigitChars_ten_toDigits

theorem number?_padded (pos : 0 < width) (lt : n < 10 ^ width) :
    number? width (padded width n ++ rest) = some (n, rest) := by
  have length := length_padded pos lt
  have taken : (padded width n ++ rest).take width = padded width n := List.take_left' length
  have digits : (padded width n).takeWhile Char.isDigit = padded width n :=
    List.takeWhile_eq_self_iff.2 fun _ mem => isDigit_of_mem_padded mem
  have filled : (padded width n).isEmpty = false := by
    rw [List.isEmpty_eq_false_iff, ← List.length_pos_iff]
    omega
  have dropped : (padded width n ++ rest).drop (padded width n).length = rest := List.drop_left
  unfold number?
  simp only [taken, digits, filled, natural_padded, dropped, Bool.false_eq_true, if_false]

theorem padded_ne_nil (width n : Nat) : padded width n ≠ [] :=
  List.append_ne_nil_of_right_ne_nil _ Nat.toDigits_ne_nil

theorem exists_cons_padded (width n : Nat) :
    ∃ d ds, padded width n = d :: ds ∧ d.isDigit := by
  obtain ⟨d, ds, cons⟩ := List.exists_cons_of_ne_nil (padded_ne_nil width n)
  refine ⟨d, ds, cons, @isDigit_of_mem_padded width n d ?_⟩
  rw [cons]
  exact List.mem_cons_self

theorem trimStart_padded : Text.trimStart (padded width n ++ rest) = padded width n ++ rest := by
  obtain ⟨d, ds, cons, digit⟩ := exists_cons_padded width n
  rw [cons, Text.trimStart, List.cons_append, List.dropWhile_cons,
    Decimal.isBlank_of_isDigit digit]
  rfl

theorem field?_padded (pos : 0 < width) (lt : n < 10 ^ width) :
    field? width (padded width n ++ rest) = some (n, rest) := by
  rw [field?, trimStart_padded, number?_padded pos lt]

theorem field?_blank_padded (pos : 0 < width) (lt : n < 10 ^ width) :
    field? width (' ' :: (padded width n ++ rest)) = some (n, rest) :=
  field?_padded pos lt

theorem year?_padded (lt : n < 10 ^ 4) :
    year? (padded 4 n ++ rest) = some ((n : Int), rest) := by
  obtain ⟨d, ds, cons, digit⟩ := exists_cons_padded 4 n
  have number : number? 4 (padded 4 n ++ rest) = some (n, rest) := number?_padded (by decide) lt
  have other : d ≠ '-' := by
    rintro rfl
    cases digit
  unfold year?
  rw [trimStart_padded]
  rw [cons, List.cons_append] at number ⊢
  split
  · rename_i minus
    exact absurd (List.cons.inj minus).1 other
  · rw [number]
    rfl

/-! ## Texts -/

structure Regular (s : Stamp) : Prop where
  date : s.date.IsValid
  year : 0 ≤ s.date.year ∧ s.date.year < 10000
  hour : s.hour < 24
  minute : s.minute < 60
  second : s.second < 60

theorem ofChars?_chars {s : Stamp} (h : s.Regular) : ofChars? s.chars = some s := by
  obtain ⟨⟨year, month, day⟩, hour, minute, second⟩ := s
  obtain ⟨date, ⟨low, high⟩, hours, minutes, seconds⟩ := h
  dsimp only at date low high hours minutes seconds
  obtain ⟨y, rfl⟩ := Int.eq_ofNat_of_zero_le low
  have days : day ≤ 31 := by
    refine date.2.2.2.trans ?_
    unfold monthLength
    split
    · split <;> decide
    · split <;> decide
  have months : month ≤ 12 := date.2.1
  have four : y < 10 ^ 4 := by
    change (y : Int) < 10000 at high
    omega
  have positive : ¬ ((y : Int) < 0) := by omega
  have years : ∀ rest, year? (padded 4 y ++ rest) = some ((y : Int), rest) :=
    fun rest => year?_padded four
  have fields (n : Nat) (rest : List Char) (lt : n < 10 ^ 2) :
      field? 2 (padded 2 n ++ rest) = some (n, rest) := field?_padded (by decide) lt
  have hourField : field? 2 (' ' :: (padded 2 hour ++ ':' :: (padded 2 minute ++
      ':' :: padded 2 second))) = some (hour, ':' :: (padded 2 minute ++ ':' :: padded 2 second)) :=
    field?_blank_padded (by decide) (by omega)
  have secondField : field? 2 (padded 2 second) = some (second, []) := by
    rw [← List.append_nil (padded 2 second)]
    exact fields second [] (by omega)
  have secondsEnd : seconds? (':' :: padded 2 second) = some second := by
    have count : min second 59 = second := by omega
    have within : second ≤ 60 := by omega
    simp [seconds?, expect?, secondField, within, count]
  have earliest : firstYear ≤ (y : Int) := by
    unfold firstYear
    omega
  unfold chars yearChars ofChars?
  simp only [positive, if_false, Int.natAbs_natCast, List.append_assoc, List.cons_append, years,
    Option.bind_eq_bind, Option.bind_some, expect?, if_true, fields month _ (by omega),
    fields day _ (by omega), hourField, fields minute _ (by omega), secondsEnd]
  rw [if_pos ⟨date, earliest, hours, minutes⟩]

theorem mem_chars {s : Stamp} {c : Char} (mem : c ∈ s.chars) :
    c.isDigit ∨ c ∈ ['-', ' ', ':'] := by
  have years : c ∈ yearChars s.date.year → c.isDigit ∨ c ∈ ['-', ' ', ':'] := by
    intro mem
    unfold yearChars at mem
    split at mem
    · rcases List.mem_cons.1 mem with rfl | digit
      · exact .inr (by decide)
      · exact .inl (isDigit_of_mem_padded digit)
    · exact .inl (isDigit_of_mem_padded mem)
  have digits {width n : Nat} (mem : c ∈ padded width n) : c.isDigit ∨ c ∈ ['-', ' ', ':'] :=
    .inl (isDigit_of_mem_padded mem)
  simp only [chars, List.mem_append, List.mem_cons] at mem
  obtain ((((year | rfl | month) | rfl | day) | rfl | hour) | rfl | minute) | rfl | second := mem
  · exact years year
  · exact .inr (by decide)
  · exact digits month
  · exact .inr (by decide)
  · exact digits day
  · exact .inr (by decide)
  · exact digits hour
  · exact .inr (by decide)
  · exact digits minute
  · exact .inr (by decide)
  · exact digits second

theorem plus_not_mem_chars (s : Stamp) : '+' ∉ s.chars := fun mem => by
  rcases mem_chars mem with digit | mark
  · cases digit
  · exact absurd mark (by decide)

theorem trimStart_chars_append (s : Stamp) (rest : List Char) :
    Text.trimStart (s.chars ++ rest) = s.chars ++ rest := by
  obtain ⟨c, cs, cons, other⟩ : ∃ c cs, s.chars = c :: cs ∧ Text.isBlank c = false := by
    obtain ⟨d, ds, cons, digit⟩ := exists_cons_padded 4 s.date.year.natAbs
    unfold chars yearChars
    split
    · exact ⟨'-', _, rfl, rfl⟩
    · rw [cons]
      exact ⟨d, _, rfl, Decimal.isBlank_of_isDigit digit⟩
  rw [cons, Text.trimStart, List.cons_append, List.dropWhile_cons, other]
  rfl

theorem trimEnd_chars_append (s : Stamp) {rest : List Char}
    (visible : ∀ c ∈ rest, Text.isBlank c = false) :
    Text.trimEnd (s.chars ++ rest) = s.chars ++ rest := by
  unfold chars
  rw [List.append_cons, List.append_assoc]
  refine Text.trimEnd_append (List.append_ne_nil_of_left_ne_nil (padded_ne_nil _ _) _) ?_
  exact List.forall_mem_append.2
    ⟨fun c mem => Decimal.isBlank_of_isDigit (isDigit_of_mem_padded mem), visible⟩

theorem regular_ofSeconds {n : Int} (low : -2 ^ 35 - 86400 < n) (high : n < 2 ^ 35 + 86400) :
    (ofSeconds n).Regular := by
  refine ⟨Date.isValid_ofDays _, Date.year_ofDays (by omega) (by omega), ?_, ?_, ?_⟩
  all_goals
    unfold ofSeconds
    dsimp only
    omega

end Stamp

end Calendar
end SpanQuery
