import SpanQuery.Sample

namespace SpanQuery.Sample

/-- The sample that holds at `t`: the last one that is not after it. -/
def current? (t : Tick) (samples : List Sample) : Option Sample :=
  (samples.filter (·.timestamp ≤ t)).getLast?

/-! ## Ordered series -/

theorem Ordered.after {samples : List Sample} (h : Ordered samples) (t : Tick) :
    Ordered (after t samples) :=
  h.sublist (List.dropWhile_sublist _)

theorem filter_upTo {t u : Tick} (le : t ≤ u) (samples : List Sample) :
    (upTo t samples).filter (·.timestamp ≤ u) = upTo t samples := by
  rw [List.filter_eq_self]
  intro s hs
  simpa using Int64.le_trans (le_of_mem_upTo hs) le

theorem current?_eq {samples : List Sample} (ordered : Ordered samples) (t : Tick) :
    current? t samples = (upTo t samples).getLast? := by
  have late : (after t samples).filter (·.timestamp ≤ t) = [] := by
    rw [List.filter_eq_nil_iff]
    intro s hs
    simpa using lt_of_mem_after ordered hs
  calc current? t samples
      = ((upTo t samples ++ after t samples).filter (·.timestamp ≤ t)).getLast? := by
        rw [upTo_append_after, current?]
    _ = (upTo t samples).getLast? := by
        rw [List.filter_append, late, filter_upTo Int64.le_rfl, List.append_nil]

theorem current?_takeWhile {samples : List Sample} (ordered : Ordered samples) {t t1 : Tick}
    (lt : t < t1) : current? t (samples.takeWhile (·.timestamp < t1)) = current? t samples := by
  have late : (samples.dropWhile (·.timestamp < t1)).filter (·.timestamp ≤ t) = [] := by
    rw [List.filter_eq_nil_iff]
    intro s hs
    have beyond := not_of_mem_dropWhile (p := (· < t1)) Int64.lt_of_le_of_lt ordered hs
    simpa using Int64.lt_of_lt_of_le lt (Int64.not_lt.1 beyond)
  calc current? t (samples.takeWhile (·.timestamp < t1))
      = ((samples.takeWhile (·.timestamp < t1) ++ samples.dropWhile (·.timestamp < t1)).filter
          (·.timestamp ≤ t)).getLast? := by
        rw [List.filter_append, late, List.append_nil, current?]
    _ = current? t samples := by rw [List.takeWhile_append_dropWhile, current?]

/-! ## Windows -/

theorem fromAnchor_eq (t : Tick) (samples : List Sample) :
    fromAnchor t samples = (upTo t samples).getLast?.toList ++ after t samples := by
  rw [fromAnchor]
  cases h : (upTo t samples).getLast? with
  | none =>
      have none_early : upTo t samples = [] := List.getLast?_eq_none_iff.1 h
      have := upTo_append_after t samples
      rw [none_early] at this ⊢
      simpa using this.symm
  | some anchor =>
      obtain ⟨earlier, split⟩ := List.getLast?_eq_some_iff.1 h
      have whole := upTo_append_after t samples
      rw [split] at whole
      rw [split]
      conv =>
        lhs
        rw [← whole]
      simp

theorem window_eq (samples : List Sample) {t0 t1 : Tick} (lt : t0 < t1) :
    window samples t0 t1 =
      (upTo t0 samples).getLast?.toList ++ (after t0 samples).takeWhile (·.timestamp < t1) := by
  rw [window, fromAnchor_eq]
  cases h : (upTo t0 samples).getLast? with
  | none => rfl
  | some anchor =>
      have early := le_of_mem_upTo (List.mem_of_getLast? h)
      have inside : anchor.timestamp < t1 := Int64.lt_of_le_of_lt early lt
      simp [inside]

theorem window_sublist (samples : List Sample) (t0 t1 : Tick) :
    (window samples t0 t1).Sublist samples :=
  (List.takeWhile_sublist _).trans (List.drop_sublist _ _)

theorem ordered_window {samples : List Sample} (ordered : Ordered samples) (t0 t1 : Tick) :
    Ordered (window samples t0 t1) :=
  ordered.sublist (window_sublist samples t0 t1)

theorem cut_append {t : Tick} {early late : List Sample} (he : ∀ s ∈ early, s.timestamp ≤ t)
    (hl : ∀ s ∈ late.head?, t < s.timestamp) :
    upTo t (early ++ late) = early ∧ after t (early ++ late) = late := by
  have passes : ∀ s ∈ early, decide (s.timestamp ≤ t) = true := by simpa using he
  have stops : upTo t late = [] ∧ after t late = late := by
    cases late with
    | nil => exact ⟨rfl, rfl⟩
    | cons s rest => simp [upTo, after, hl s rfl]
  constructor
  · rw [upTo, List.takeWhile_append_of_pos passes]
    exact (congrArg (early ++ ·) stops.1).trans (List.append_nil _)
  · rw [after, List.dropWhile_append_of_pos passes]
    exact stops.2

theorem lt_of_mem_head?_after {t : Tick} {samples : List Sample} {s : Sample}
    (h : s ∈ (after t samples).head?) : t < s.timestamp := by
  have beyond := List.head?_dropWhile_not (fun s : Sample => decide (s.timestamp ≤ t)) samples
  rw [after] at h
  rw [Option.mem_def.1 h] at beyond
  simpa using beyond

theorem cut_window (samples : List Sample) {t0 t1 : Tick} (lt : t0 < t1) :
    upTo t0 (window samples t0 t1) = (upTo t0 samples).getLast?.toList ∧
      after t0 (window samples t0 t1) = (after t0 samples).takeWhile (·.timestamp < t1) := by
  rw [window_eq samples lt]
  refine cut_append ?_ ?_
  · intro s hs
    exact le_of_mem_upTo (List.mem_of_getLast? (Option.mem_toList.1 hs))
  · intro s hs
    suffices first : s ∈ (after t0 samples).head? from lt_of_mem_head?_after first
    cases late : after t0 samples with
    | nil =>
        rw [late] at hs
        cases hs
    | cons first rest =>
        rw [late, List.takeWhile_cons] at hs
        split at hs
        · exact hs
        · cases hs

theorem current?_window {samples : List Sample} (ordered : Ordered samples) {t0 t1 t : Tick}
    (le : t0 ≤ t) (lt : t < t1) :
    current? t samples =
      (current? t ((after t0 samples).takeWhile (·.timestamp < t1))).or
        (upTo t0 samples).getLast? := by
  rw [current?_takeWhile (ordered.after t0) lt]
  conv =>
    lhs
    rw [current?, ← upTo_append_after t0 samples, List.filter_append, filter_upTo le]
  exact List.getLast?_append

end SpanQuery.Sample
