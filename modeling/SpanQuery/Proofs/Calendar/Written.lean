import SpanQuery.Proofs.Calendar.Dated
import SpanQuery.Proofs.Calendar.Shown

namespace SpanQuery

theorem Lexer.Numeral.visible {s : List Char} (h : Numeral s) :
    ∀ c ∈ s, Text.isBlank c = false := by
  have digits {ds : List Char} (all : ∀ c ∈ ds, c.isDigit) : ∀ c ∈ ds, Text.isBlank c = false :=
    fun c mem => Decimal.isBlank_of_isDigit (all c mem)
  cases h with
  | whole all => exact digits all
  | point all places =>
      exact List.forall_mem_append.2 ⟨digits all, List.forall_mem_cons.2 ⟨rfl, digits places⟩⟩

theorem Text.trim_of_visible {s : List Char} (visible : ∀ c ∈ s, isBlank c = false) :
    trim s = s := by
  cases s with
  | nil => rfl
  | cons c s =>
      rw [trim, trimStart, List.dropWhile_cons, visible c List.mem_cons_self]
      exact @trimEnd_append [] (c :: s) (List.cons_ne_nil c s) visible

namespace Calendar

/-! ## Shown seconds -/

namespace Zone
variable {zone : Zone} {second : Int}

/-- No other instant looks the same on the clocks. -/
def ShowsOnce (zone : Zone) (second : Int) : Prop :=
  ∀ instant, zone.reading instant = zone.reading second → instant = second

theorem instants_of_showsOnce (once : zone.ShowsOnce second) :
    zone.instants (zone.reading second) = [second] := by
  have nodup := zone.nodup_instants (zone.reading second)
  have mem : ∀ i, i ∈ zone.instants (zone.reading second) ↔ i = second := fun i => by
    rw [zone.mem_instants]
    exact ⟨once i, fun same => same ▸ rfl⟩
  exact List.perm_singleton.1 ((List.perm_ext_iff_of_nodup nodup (List.nodup_singleton _)).2
    fun i => by rw [mem, List.mem_singleton])

theorem showsOnce_of_instants {only : Int} (h : zone.instants (zone.reading second) = [only]) :
    zone.ShowsOnce second := by
  have mem (i : Int) (same : zone.reading i = zone.reading second) : i = only := by
    rw [← List.mem_singleton, ← h, zone.mem_instants]
    exact same
  intro instant same
  rw [mem instant same, mem second rfl]

def IsFixed (zone : Zone) : Prop :=
  ∀ i j, zone.offsetAt i = zone.offsetAt j

theorem IsFixed.showsOnce (fixed : zone.IsFixed) (second : Int) : zone.ShowsOnce second := by
  intro instant same
  have offset := fixed instant second
  unfold Zone.reading at same
  omega

end Zone

theorem secondOf?_of_showsOnce {zone : Zone} {second : Int}
    (reached : yearStart Stamp.firstYear ≤ second) (once : zone.ShowsOnce second) :
    secondOf? zone (Stamp.ofSeconds (zone.reading second)) = some second := by
  rw [secondOf?, Stamp.toSeconds_ofSeconds, Zone.instants_of_showsOnce once]
  exact if_pos reached

theorem secondOf?_of_not_showsOnce {zone : Zone} {second : Int} (shared : ¬ zone.ShowsOnce second) :
    secondOf? zone (Stamp.ofSeconds (zone.reading second)) = none := by
  rw [secondOf?, Stamp.toSeconds_ofSeconds]
  split
  · rename_i only h
    exact absurd (Zone.showsOnce_of_instants h) shared
  · rfl

/-! ## Fractions -/

theorem ofFloat_fraction {k : Nat} (lt : k < 2 ^ 53) :
    ∃ (m : Nat) (q : Int), Binary64.ofFloat (Binary64.finite false k (-28)).toFloat =
      .finite false m q ∧ (m * 2 ^ q : ℚ) = k / ticksPerSecond := by
  have second : ((ticksPerSecond : Int) : ℚ) = 2 ^ 28 := by norm_num [ticksPerSecond]
  rcases Nat.eq_zero_or_pos k with rfl | pos
  · exact ⟨0, -1074, by decide +kernel, by simp⟩
  · obtain ⟨j, canonical⟩ := Binary64.exists_canonical (q := -28) pos lt (by decide) (by decide)
    refine ⟨_, _, Binary64.ofFloat_toFloat canonical, ?_⟩
    rw [Binary64.shiftLeft_mul_zpow, second, zpow_neg, div_eq_mul_inv]
    rfl

theorem visible_fractionChars {k : Nat} (lt : k < 2 ^ 53) :
    ∀ c ∈ fractionChars k, Text.isBlank c = false := by
  obtain ⟨m, q, finite, -⟩ := ofFloat_fraction lt
  obtain ⟨s, numeral, text⟩ := Lexer.Numeral.of_finite finite
  unfold fractionChars
  rw [text]
  exact numeral.visible

/-! ## Texts -/

theorem parts_text (t : Tick) (zone : Zone) :
    Parts (Text.trim (text t zone).toList) (stampAt t zone).chars
      ((t.toInt % ticksPerSecond).toNat / ticksPerSecond) := by
  have part : (t.toInt % ticksPerSecond).toNat < 2 ^ 53 := by
    unfold ticksPerSecond
    omega
  have visible := visible_fractionChars part
  obtain ⟨m, q, finite, value⟩ := ofFloat_fraction part
  have stamp := Stamp.trimEnd_chars_append (stampAt t zone) (List.forall_mem_nil _)
  rw [List.append_nil] at stamp
  have whole : Text.trim (text t zone).toList = (stampAt t zone).chars ++
      '+' :: fractionChars (t.toInt % ticksPerSecond).toNat := by
    unfold text Text.trim
    rw [String.toList_ofList, Stamp.trimStart_chars_append]
    exact Stamp.trimEnd_chars_append _ (List.forall_mem_cons.2 ⟨rfl, visible⟩)
  have parts := @Parts.fraction (stampAt t zone).chars
    (fractionChars (t.toInt % ticksPerSecond).toNat) _ _ (Stamp.plus_not_mem_chars _)
    (by rw [Text.trim_of_visible visible]; exact Decimal.read?_chars finite)
    (by rw [finite]; exact congrArg some value)
  rw [stamp] at parts
  rwa [whole]

theorem parts_stampText (t : Tick) (zone : Zone) :
    Parts (Text.trim (stampText t zone).toList) (stampAt t zone).chars 0 := by
  have stamp := Stamp.trimEnd_chars_append (stampAt t zone) (List.forall_mem_nil _)
  have start := Stamp.trimStart_chars_append (stampAt t zone) []
  rw [List.append_nil] at stamp start
  unfold stampText Text.trim
  rw [String.toList_ofList, start, stamp]
  exact .whole (Stamp.plus_not_mem_chars _)

theorem reaches_second (t : Tick) : yearStart Stamp.firstYear ≤ t.toInt / ticksPerSecond ∧
    t.toInt / ticksPerSecond < yearStart (Stamp.lastYear + 1) := by
  have low := t.le_toInt
  have high := t.toInt_lt
  have first : yearStart Stamp.firstYear = -8334601228800 := by decide
  have last : yearStart (Stamp.lastYear + 1) = 8210266876800 := by decide
  rw [first, last]
  unfold ticksPerSecond
  omega

theorem tick_of_stamp {text : String} {t u : Tick} {zone : Zone} {f : ℚ}
    (parts : Parts (Text.trim text.toList) (stampAt t zone).chars f)
    (nonneg : 0 ≤ f) (below : f < 1)
    (value : u.toInt = t.toInt / ticksPerSecond * ticksPerSecond + ⌊f * ticksPerSecond⌋) :
    (zone.ShowsOnce (t.toInt / ticksPerSecond) → tick text zone = .ok u) ∧
      (¬ zone.ShowsOnce (t.toInt / ticksPerSecond) →
        tick text zone = .error (.doubtful (stampText t zone) zone.name)) := by
  have low := t.le_toInt
  have high := t.toInt_lt
  have second : -2 ^ 35 ≤ t.toInt / ticksPerSecond ∧ t.toInt / ticksPerSecond < 2 ^ 35 := by
    unfold ticksPerSecond
    omega
  have ahead := zone.natAbs_offsetAt_lt (t.toInt / ticksPerSecond)
  have regular : (stampAt t zone).Regular := by
    unfold stampAt Zone.reading
    exact Stamp.regular_ofSeconds (by omega) (by omega)
  obtain ⟨n, whole, eq⟩ := tick_of_parts zone parts nonneg below
    (Stamp.ofChars?_chars regular)
  have part := whole ▸ floor_lt_ticksPerSecond below
  constructor
  · intro once
    have instant : secondOf? zone (stampAt t zone) = some (t.toInt / ticksPerSecond) :=
      secondOf?_of_showsOnce (reaches_second t).1 once
    obtain ⟨t', reached, sum⟩ := tickAt_of_reached part second.1 second.2
    have same : t' = u := Int64.toInt_inj.1 (by rw [sum, value, whole])
    rw [eq, instant, ← same]
    exact reached
  · intro shared
    have none : secondOf? zone (stampAt t zone) = none := secondOf?_of_not_showsOnce shared
    rw [eq, none]
    rfl

/-- Every tick has a text, with the part of its second and without it. The text is read as the tick,
or as the start of its second, unless the clocks show its second more than once; clocks that are
never set do not. -/
theorem tick_written (t : Tick) (zone : Zone) :
    (∃ text, written true t zone = .ok text ∧
      (tick text zone = .ok t ∨
        tick text zone = .error (.doubtful (stampText t zone) zone.name)) ∧
      (zone.IsFixed → tick text zone = .ok t)) ∧
    ∃ text, written false t zone = .ok text ∧ ∃ u : Tick, u.toInt = t.toInt - t.toInt % 2 ^ 28 ∧
      (tick text zone = .ok u ∨
        tick text zone = .error (.doubtful (stampText t zone) zone.name)) ∧
      (zone.IsFixed → tick text zone = .ok u) := by
  have units : ticksPerSecond = 2 ^ 28 := rfl
  have low := t.le_toInt
  have high := t.toInt_lt
  have pos : (0 : ℚ) < ticksPerSecond := by norm_num [ticksPerSecond]
  have remainder : ((t.toInt % ticksPerSecond).toNat : Int) = t.toInt % ticksPerSecond := by
    rw [units]
    omega
  have below : ((t.toInt % ticksPerSecond).toNat / ticksPerSecond : ℚ) < 1 := by
    rw [div_lt_one pos]
    have less : (t.toInt % ticksPerSecond).toNat < ticksPerSecond := by
      rw [units]
      omega
    exact_mod_cast less
  have value : t.toInt = t.toInt / ticksPerSecond * ticksPerSecond +
      ⌊((t.toInt % ticksPerSecond).toNat / ticksPerSecond * ticksPerSecond : ℚ)⌋ := by
    rw [div_mul_cancel₀ _ pos.ne', Int.floor_natCast, remainder, units]
    omega
  -- The start of the second is in a word as well, since words reach down to a whole second.
  obtain ⟨start, begins⟩ := exists_toInt_eq (n := t.toInt / ticksPerSecond * ticksPerSecond)
    (by rw [units]; omega) (by rw [units]; omega)
  have full := tick_of_stamp (parts_text t zone) (by positivity) below value
  have bare := tick_of_stamp (u := start) (parts_stampText t zone) le_rfl one_pos
    (by rw [begins, zero_mul, Int.floor_zero, add_zero])
  refine ⟨⟨text t zone, if_pos (reaches_second t), ?_, fun fixed => full.1 (fixed.showsOnce _)⟩,
    stampText t zone, if_pos (reaches_second t), start, ?_, ?_,
    fun fixed => bare.1 (fixed.showsOnce _)⟩
  · exact (em _).imp full.1 full.2
  · rw [begins, units]
    omega
  · exact (em _).imp bare.1 bare.2

theorem tick_written_universal :
    Zone.universal.IsFixed ∧ ∃ text, written true (-1) .universal = .ok text ∧
      tick text .universal = .ok (-1) := by
  have fixed : Zone.universal.IsFixed := fun _ _ => rfl
  obtain ⟨⟨text, shown, -, read⟩, -⟩ := tick_written (-1) .universal
  exact ⟨fixed, text, shown, read fixed⟩

end Calendar
end SpanQuery
