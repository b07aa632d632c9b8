import SpanQuery.Proofs.Calendar.Fraction

namespace SpanQuery

/-! ## Tick counts -/

namespace Decimal

theorem digits_of_magnitude {radix limit : Nat} {beyond : NumberFault} {s : List Char} {n m : Nat}
    (h : magnitude radix limit beyond n s = .ok m) : ∀ c ∈ s, (digitValue? radix c).isSome := by
  induction s generalizing n with
  | nil => simp
  | cons c rest ih =>
      rw [magnitude] at h
      cases digit : digitValue? radix c with
      | none => rw [digit] at h; cases h
      | some d =>
          rw [digit] at h
          dsimp only at h
          split at h
          · cases h
          · intro c' mem
            rcases List.mem_cons.1 mem with rfl | mem
            · rw [digit]
              rfl
            · exact ih h c' mem

theorem tick?_of_mem {s : List Char} (colon : ':' ∈ s) : tick? s = none := by
  have digits {limit : Nat} {beyond : NumberFault} {ds : List Char} (mem : ':' ∈ ds) :
      ∃ fault, magnitude 10 limit beyond 0 ds = .error fault := by
    cases read : magnitude 10 limit beyond 0 ds with
    | error fault => exact ⟨fault, rfl⟩
    | ok n => exact absurd (digits_of_magnitude read _ mem) (by decide)
  unfold tick? wordIn
  split
  · rfl
  · rfl
  · rfl
  · rename_i ds _
    obtain ⟨fault, read⟩ := @digits wordIn.least .tooSmall ds (by simpa using colon)
    rw [read]
    rfl
  · rename_i ds _
    obtain ⟨fault, read⟩ := @digits wordIn.greatest .tooLarge ds (by simpa using colon)
    rw [read]
    rfl
  · obtain ⟨fault, read⟩ := @digits wordIn.greatest .tooLarge s colon
    rw [read]
    rfl

end Decimal

namespace Calendar

/-! ## Stamps -/

namespace Stamp
variable {s rest : List Char}

theorem suffix_of_number? {width n : Nat} (h : number? width s = some (n, rest)) :
    rest <:+ s := by
  unfold number? at h
  dsimp only at h
  split at h
  · cases h
  · cases h
    exact List.drop_suffix _ _

theorem suffix_of_field? {width n : Nat} (h : field? width s = some (n, rest)) : rest <:+ s :=
  (suffix_of_number? h).trans (List.dropWhile_suffix _)

theorem suffix_of_year? {year : Int} (h : year? s = some (year, rest)) : rest <:+ s := by
  have start : Text.trimStart s <:+ s := List.dropWhile_suffix _
  unfold year? at h
  split at h
  · rename_i minus
    obtain ⟨⟨n, r⟩, read, same⟩ := Option.map_eq_some_iff.1 h
    cases same
    rw [minus] at start
    exact ((suffix_of_number? read).trans (List.suffix_cons _ _)).trans start
  · obtain ⟨⟨n, r⟩, read, same⟩ := Option.map_eq_some_iff.1 h
    cases same
    exact (suffix_of_number? read).trans start

theorem of_expect? {c : Char} (h : expect? c s = some rest) : s = c :: rest := by
  unfold expect? at h
  split at h
  · split at h
    · rename_i same
      rw [← Option.some.inj h, same]
    · cases h
  · cases h

theorem colon_mem {stamp : Stamp} (h : ofChars? s = some stamp) : ':' ∈ s := by
  simp only [ofChars?, Option.bind_eq_bind, Option.bind_eq_some_iff, Prod.exists] at h
  obtain ⟨year, s₁, year?, s₂, hyphen₁, month, s₃, month?, s₄, hyphen₂, day, s₅, day?, hour, s₆,
    hour?, s₇, colon, -⟩ := h
  obtain rfl := of_expect? hyphen₁
  obtain rfl := of_expect? hyphen₂
  obtain rfl := of_expect? colon
  have after : ':' ∈ s₅ := (suffix_of_field? hour?).subset List.mem_cons_self
  have behind : ':' ∈ s₄ := (suffix_of_field? day?).subset after
  have between : ':' ∈ s₂ := (suffix_of_field? month?).subset (List.mem_cons_of_mem _ behind)
  exact (suffix_of_year? year?).subset (List.mem_cons_of_mem _ between)

end Stamp

/-! ## Dated texts -/

/-- A text without blanks at its ends falls into a stamp and the number behind a plus sign. -/
inductive Parts : List Char → List Char → ℚ → Prop where
  | whole {stamp : List Char} : '+' ∉ stamp → Parts stamp stamp 0
  | fraction {stamp digits : List Char} {x : Float} {f : ℚ} :
      '+' ∉ stamp → Decimal.read? (Text.trim digits) = some x →
      (Binary64.ofFloat x).value? = some f →
      Parts (stamp ++ '+' :: digits) (Text.trimEnd stamp) f

/-- The text shows a second and a fraction of it on the clocks of a zone. -/
structure Dated (text : String) (zone : Zone) (second : Int) (f : ℚ) : Prop where
  nonneg : 0 ≤ f
  below : f < 1
  shown : ∃ stamp s, Parts (Text.trim text.toList) stamp f ∧ Stamp.ofChars? stamp = some s ∧
    secondOf? zone s = some second

theorem splitFraction?_of_parts {chars stamp : List Char} {f : ℚ} (parts : Parts chars stamp f)
    (nonneg : 0 ≤ f) (below : f < 1) :
    ∃ n : Nat, splitFraction? chars = some (stamp, n) ∧ (n : Int) = ⌊f * ticksPerSecond⌋ := by
  cases parts with
  | whole none =>
      have span : chars.span (· ≠ '+') = (chars, []) := by
        rw [List.span_eq_takeWhile_dropWhile, List.takeWhile_eq_self_iff.2,
          List.dropWhile_eq_nil_iff.2]
        all_goals
          intro c mem
          have other : c ≠ '+' := fun same => none (same ▸ mem)
          exact decide_eq_true other
      refine ⟨0, ?_, by simp⟩
      rw [splitFraction?, span]
  | @fraction before digits x f none read value =>
      have span : (before ++ '+' :: digits).span (· ≠ '+') = (before, '+' :: digits) := by
        have all : ∀ c ∈ before, decide (c ≠ '+') := fun c mem =>
          decide_eq_true fun same => none (same ▸ mem)
        rw [List.span_eq_takeWhile_dropWhile, List.takeWhile_append_of_pos all,
          List.dropWhile_append_of_pos all]
        simp
      obtain ⟨n, whole⟩ : ∃ n : Nat, (n : Int) = ⌊f * ticksPerSecond⌋ :=
        ⟨_, Int.toNat_of_nonneg (Int.floor_nonneg.2 (mul_nonneg nonneg (by decide)))⟩
      have ticks : fractionTicks? x = some n :=
        fractionTicks?_eq_some_iff.2 ⟨f, value, nonneg, below, whole⟩
      refine ⟨n, ?_, whole⟩
      rw [splitFraction?, span]
      simp [read, ticks]

theorem parts_of_splitFraction? {chars stamp : List Char} {n : Nat}
    (split : splitFraction? chars = some (stamp, n)) :
    ∃ f, Parts chars stamp f ∧ 0 ≤ f ∧ f < 1 := by
  have whole := List.takeWhile_append_dropWhile (p := (· ≠ '+')) (l := chars)
  have none : '+' ∉ chars.takeWhile (· ≠ '+') := fun mem => by
    simpa using List.mem_takeWhile_imp mem
  rw [splitFraction?, List.span_eq_takeWhile_dropWhile] at split
  generalize chars.takeWhile (· ≠ '+') = before at *
  generalize behind : chars.dropWhile (· ≠ '+') = rest at *
  cases rest with
  | nil =>
      cases split
      rw [List.append_nil] at whole
      exact ⟨0, .whole (whole ▸ none), le_rfl, one_pos⟩
  | cons plus digits =>
      obtain rfl : plus = '+' := by
        have head := List.head?_dropWhile_not (· ≠ '+') chars
        rw [behind] at head
        simpa using head
      simp only [Option.bind_eq_bind, Option.bind_eq_some_iff, Option.some.injEq,
        Prod.mk.injEq] at split
      obtain ⟨x, read, n', ticks, rfl, rfl⟩ := split
      obtain ⟨f, value, nonneg, below, -⟩ := fractionTicks?_eq_some_iff.1 ticks
      exact ⟨f, whole ▸ .fraction none read value, nonneg, below⟩

theorem colon_mem_of_parts {chars stamp : List Char} {f : ℚ} (parts : Parts chars stamp f)
    (colon : ':' ∈ stamp) : ':' ∈ chars := by
  cases parts with
  | whole _ => exact colon
  | @fraction before =>
      have kept : ':' ∈ before := by
        unfold Text.trimEnd at colon
        exact List.mem_reverse.1 ((List.dropWhile_suffix _).subset (List.mem_reverse.1 colon))
      exact List.mem_append_left _ kept

theorem tick_of_parts {text : String} (zone : Zone) {stamp : List Char} {s : Stamp} {f : ℚ}
    (parts : Parts (Text.trim text.toList) stamp f) (nonneg : 0 ≤ f) (below : f < 1)
    (reads : Stamp.ofChars? stamp = some s) :
    ∃ n : Nat, (n : Int) = ⌊f * ticksPerSecond⌋ ∧ tick text zone =
      match secondOf? zone s with
      | none => .error (.doubtful (String.ofList stamp) zone.name)
      | some second => tickAt second n := by
  obtain ⟨n, split, whole⟩ := splitFraction?_of_parts parts nonneg below
  have count := Decimal.tick?_of_mem (colon_mem_of_parts parts (Stamp.colon_mem reads))
  refine ⟨n, whole, ?_⟩
  cases found : secondOf? zone s with
  | none => simp only [tick, count, split, reads, found]
  | some second => simp only [tick, count, split, reads, found]

theorem tick_of_dated {text : String} {zone : Zone} {second : Int} {f : ℚ}
    (dated : Dated text zone second f) :
    ∃ n : Nat, (n : Int) = ⌊f * ticksPerSecond⌋ ∧ tick text zone = tickAt second n := by
  obtain ⟨nonneg, below, stamp, s, parts, reads, instant⟩ := dated
  obtain ⟨n, whole, eq⟩ := tick_of_parts zone parts nonneg below reads
  rw [instant] at eq
  exact ⟨n, whole, eq⟩

/-- What is read as a tick and is no count of ticks is a dated text. -/
theorem exists_dated {text : String} {zone : Zone} {t : Tick} (read : tick text zone = .ok t)
    (count : Decimal.tick? (Text.trim text.toList) = none) :
    ∃ second f, Dated text zone second f := by
  unfold tick at read
  simp only [count] at read
  cases split : splitFraction? (Text.trim text.toList) with
  | none => rw [split] at read; cases read
  | some parts =>
      obtain ⟨stamp, n⟩ := parts
      simp only [split] at read
      cases reads : Stamp.ofChars? stamp with
      | none => rw [reads] at read; cases read
      | some s =>
          simp only [reads] at read
          cases instant : secondOf? zone s with
          | none => rw [instant] at read; cases read
          | some second =>
              obtain ⟨f, parts, nonneg, below⟩ := parts_of_splitFraction? split
              exact ⟨second, f, nonneg, below, stamp, s, parts, reads, instant⟩

/-! ## Words -/

theorem exists_toInt_eq {n : Int} (low : -2 ^ 63 ≤ n) (high : n < 2 ^ 63) :
    ∃ t : Tick, t.toInt = n :=
  ⟨Int64.ofInt n, Int64.toInt_ofInt_of_le low high⟩

theorem tickAt_of_reached {second : Int} {n : Nat} (part : (n : Int) < ticksPerSecond)
    (low : -2 ^ 35 ≤ second) (high : second < 2 ^ 35) :
    ∃ t : Tick, tickAt second n = .ok t ∧ t.toInt = second * ticksPerSecond + n := by
  unfold ticksPerSecond at part
  obtain ⟨start, product⟩ := exists_toInt_eq (n := second * ticksPerSecond)
    (by unfold ticksPerSecond; omega) (by unfold ticksPerSecond; omega)
  obtain ⟨t, sum⟩ := exists_toInt_eq (n := start.toInt + n)
    (by rw [product]; unfold ticksPerSecond; omega) (by rw [product]; unfold ticksPerSecond; omega)
  refine ⟨t, ?_, by rw [sum, product]⟩
  rw [tickAt, Tick.ofInt?_eq_some_iff.2 product]
  simp only [Option.bind_some, Tick.ofInt?_eq_some_iff.2 sum]

theorem tickAt_of_beyond {second : Int} {n : Nat} (beyond : second < -2 ^ 35 ∨ 2 ^ 35 ≤ second) :
    tickAt second n = .error (.outOfRange second) := by
  have product : Tick.ofInt? (second * ticksPerSecond) = none := by
    rw [Tick.ofInt?_eq_none_iff, Int64.toInt_minValue, Int64.toInt_maxValue]
    unfold ticksPerSecond
    omega
  rw [tickAt, product]
  rfl

theorem floor_lt_ticksPerSecond {f : ℚ} (below : f < 1) :
    ⌊f * ticksPerSecond⌋ < ticksPerSecond := by
  rw [Int.floor_lt]
  have pos : (0 : ℚ) < ticksPerSecond := by norm_num [ticksPerSecond]
  exact mul_lt_of_lt_one_left pos below

theorem toInt_of_tick {text : String} {zone : Zone} {second : Int} {f : ℚ}
    (dated : Dated text zone second f) {t : Tick} (read : tick text zone = .ok t) :
    (-2 ^ 35 ≤ second ∧ second < 2 ^ 35) ∧
      t.toInt = second * ticksPerSecond + ⌊f * ticksPerSecond⌋ := by
  obtain ⟨n, whole, eq⟩ := tick_of_dated dated
  have part := whole ▸ floor_lt_ticksPerSecond dated.below
  rw [eq] at read
  rcases lt_or_ge second (-2 ^ 35) with less | low
  · rw [tickAt_of_beyond (.inl less)] at read
    cases read
  rcases lt_or_ge second (2 ^ 35) with high | more
  · obtain ⟨t', reached, value⟩ := tickAt_of_reached part low high
    rw [reached] at read
    cases read
    exact ⟨⟨low, high⟩, by rw [value, whole]⟩
  · rw [tickAt_of_beyond (.inr more)] at read
    cases read

/-- A dated text is read as the tick of its second and its fraction, which is inside that second,
or as out of range. It is out of range just where the product or the sum on the way would leave a
word, and a larger fraction gives no smaller tick. -/
theorem tick_within_second {text : String} {zone : Zone} {second : Int} {f : ℚ}
    (dated : Dated text zone second f) :
    (-2 ^ 35 ≤ second → second < 2 ^ 35 → ∃ t : Tick, tick text zone = .ok t ∧
        t.toInt = second * 2 ^ 28 + ⌊f * 2 ^ 28⌋ ∧
        second * 2 ^ 28 ≤ t.toInt ∧ t.toInt < (second + 1) * 2 ^ 28) ∧
      (second < -2 ^ 35 ∨ 2 ^ 35 ≤ second → tick text zone = .error (.outOfRange second)) ∧
      ((∃ t : Tick, tick text zone = .ok t) ↔ ∃ product sum : Tick,
        product.toInt = second * 2 ^ 28 ∧ sum.toInt = product.toInt + ⌊f * 2 ^ 28⌋) ∧
      ∀ text' zone' f', Dated text' zone' second f' → f ≤ f' → ∀ t t' : Tick,
        tick text zone = .ok t → tick text' zone' = .ok t' → t.toInt ≤ t'.toInt := by
  obtain ⟨n, whole, eq⟩ := tick_of_dated dated
  have part := whole ▸ floor_lt_ticksPerSecond dated.below
  have units : ticksPerSecond = 2 ^ 28 := rfl
  have floor : ⌊f * (2 : ℚ) ^ 28⌋ = n := by
    rw [whole, units]
    norm_num
  have reached (low : -2 ^ 35 ≤ second) (high : second < 2 ^ 35) :
      ∃ t : Tick, tick text zone = .ok t ∧ t.toInt = second * 2 ^ 28 + n := by
    rw [eq]
    exact tickAt_of_reached part low high
  rw [units] at part
  refine ⟨fun low high => ?_, fun beyond => ?_, ⟨?_, ?_⟩, ?_⟩
  · obtain ⟨t, read, value⟩ := reached low high
    exact ⟨t, read, by rw [value, floor], by omega, by omega⟩
  · rw [eq, tickAt_of_beyond beyond]
  · rintro ⟨t, read⟩
    obtain ⟨⟨low, high⟩, value⟩ := toInt_of_tick dated read
    rw [← whole, units] at value
    obtain ⟨product, exact⟩ := exists_toInt_eq (n := second * 2 ^ 28) (by omega) (by omega)
    exact ⟨product, t, exact, by rw [value, exact, floor]⟩
  · rintro ⟨product, sum, exact, -⟩
    have low := product.le_toInt
    have high := product.toInt_lt
    obtain ⟨t, read, -⟩ := reached (by omega) (by omega)
    exact ⟨t, read⟩
  · intro text' zone' f' dated' le t t' read read'
    have value := (toInt_of_tick dated read).2
    have value' := (toInt_of_tick dated' read').2
    have floors : ⌊f * ticksPerSecond⌋ ≤ ⌊f' * ticksPerSecond⌋ :=
      Int.floor_le_floor (mul_le_mul_of_nonneg_right le (by norm_num [ticksPerSecond]))
    omega

/-! The last tick belongs to the last second and to the last fraction of it that is a double. -/

theorem dated_latest :
    Dated "3058-10-26 03:46:07 + 0.9999999999999999" .universal (2 ^ 35 - 1) (1 - 1 / 2 ^ 53) := by
  have read : (Decimal.read? "0.9999999999999999".toList).map Binary64.ofFloat =
      some (.finite false (2 ^ 53 - 1) (-53)) := by decide +kernel
  obtain ⟨x, read, form⟩ := Option.map_eq_some_iff.1 read
  have value : (Binary64.ofFloat x).value? = some (1 - 1 / 2 ^ 53) := by
    rw [form]
    norm_num [Binary64.value?]
  refine ⟨by norm_num, by norm_num, "3058-10-26 03:46:07".toList, ⟨⟨3058, 10, 26⟩, 3, 46, 7⟩, ?_,
    by decide, by decide +kernel⟩
  exact @Parts.fraction "3058-10-26 03:46:07 ".toList " 0.9999999999999999".toList x _ (by decide)
    read value

theorem dated_beyond : Dated "3058-10-26 03:46:08" .universal (2 ^ 35) 0 :=
  ⟨le_rfl, one_pos, "3058-10-26 03:46:08".toList, ⟨⟨3058, 10, 26⟩, 3, 46, 8⟩,
    @Parts.whole "3058-10-26 03:46:08".toList (by decide), by decide, by decide +kernel⟩

theorem tick_within_second_latest :
    (∃ t : Tick, tick "3058-10-26 03:46:07 + 0.9999999999999999" .universal = .ok t ∧
        t.toInt = 2 ^ 63 - 1) ∧
      tick "3058-10-26 03:46:08" .universal = .error (.outOfRange (2 ^ 35)) := by
  obtain ⟨t, read, value, -⟩ := (tick_within_second dated_latest).1 (by decide) (by decide)
  refine ⟨⟨t, read, ?_⟩, (tick_within_second dated_beyond).2.1 (.inr le_rfl)⟩
  have floor : ⌊((1 - 1 / 2 ^ 53) * 2 ^ 28 : ℚ)⌋ = 2 ^ 28 - 1 := by norm_num
  rw [value, floor]
  rfl

end Calendar
end SpanQuery
