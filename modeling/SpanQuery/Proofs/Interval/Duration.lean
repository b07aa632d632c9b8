import Mathlib.Algebra.Order.BigOperators.Group.List
import SpanQuery.Proofs.Compression.Streams
import SpanQuery.Proofs.Evaluation.Coverage

namespace SpanQuery

open Course

namespace Interval

def extent (i : Interval) : Int :=
  i.stop.toInt - i.start.toInt

theorem extent_pos {i : Interval} (proper : i.start < i.stop) : 0 < i.extent := by
  have lt := Int64.lt_iff_toInt_lt.1 proper
  unfold extent
  omega

theorem duration_eq_some_iff {i : Interval} {d : Tick} :
    i.duration = some d ↔ d.toInt = i.extent :=
  Tick.ofInt?_eq_some_iff

theorem duration_eq_none_iff {i : Interval} (proper : i.start < i.stop) :
    i.duration = none ↔ 2 ^ 63 ≤ i.extent := by
  have pos := extent_pos proper
  have range : i.duration = none ↔ _ := Tick.ofInt?_eq_none_iff
  rw [range, Int64.toInt_minValue, Int64.toInt_maxValue]
  change i.extent < _ ∨ _ < i.extent ↔ _
  omega

end Interval

namespace Tiles
variable {start stop : Tick} {spans : List Interval}

theorem sum_extent (h : Tiles start stop spans) :
    (spans.map Interval.extent).sum = stop.toInt - start.toInt := by
  induction spans generalizing start with
  | nil =>
      obtain rfl : start = stop := h
      rw [List.map_nil, List.sum_nil, Int.sub_self]
  | cons i rest ih =>
      obtain ⟨rfl, -, later⟩ := h
      rw [List.map_cons, List.sum_cons, ih later, Interval.extent]
      omega

end Tiles

theorem toInt_of_mapM_duration {spans : List Interval} {lengths : List Tick}
    (h : spans.mapM Interval.duration = some lengths) :
    lengths.map (·.toInt) = spans.map Interval.extent := by
  induction spans generalizing lengths with
  | nil =>
      cases h
      rfl
  | cons i rest ih =>
      rw [List.mapM_cons] at h
      obtain ⟨d, first, h⟩ := Option.bind_eq_some_iff.1 h
      obtain ⟨ds, later, h⟩ := Option.bind_eq_some_iff.1 h
      cases h
      rw [List.map_cons, List.map_cons, ih later, Interval.duration_eq_some_iff.1 first]

theorem mapM_duration_eq_none_iff {spans : List Interval} (proper : ∀ i ∈ spans, i.start < i.stop) :
    spans.mapM Interval.duration = none ↔ ∃ i ∈ spans, 2 ^ 63 ≤ i.extent := by
  induction spans with
  | nil => simp
  | cons i rest ih =>
      obtain ⟨first, behind⟩ := List.forall_mem_cons.1 proper
      simp only [List.mem_cons, exists_eq_or_imp, ← Interval.duration_eq_none_iff first, ← ih behind]
      rw [List.mapM_cons]
      cases i.duration <;> cases rest.mapM Interval.duration <;> simp

/-! ## Items of an expression -/

theorem exists_merged_of_mem {spans : List Interval} {ending : List Item}
    (ends : ending = [] ∨ ∃ e, ending = [.error e]) {i : Interval}
    (h : .ok i ∈ compressItems none (spans.map .ok ++ ending)) :
    ∃ runs, Merged (spans.filter (!·.value.isFalse)) runs ∧ i ∈ runs := by
  obtain ⟨runs, run, merged⟩ := merged_compressItems none spans
  refine ⟨runs, merged, ?_⟩
  rcases ends with rfl | ⟨e, rfl⟩
  · rw [List.append_nil, run] at h
    simpa using h
  · rw [compressItems_error, run] at h
    simpa using h

section Items
variable (cut : Sample.Cut) (e : Expr) (source : Source σ) (s : σ) {t0 t1 : Tick}

theorem inside_of_mem (lt : t0 < t1) {i : Interval}
    (h : .ok i ∈ ((e.courseBy cut t0 t1).items source s).1 ∨
      .ok i ∈ ((e.courseBy cut t0 t1).compress.items source s).1) :
    i.start < i.stop ∧ t0 ≤ i.start ∧ i.stop ≤ t1 := by
  obtain ⟨reach, spans, ending, run, tiles, le, -, ends⟩ :=
    (e.keeps_courseBy cut lt).items (Contract.within_served _ source) (s := s) trivial
  have within : ∀ j ∈ spans, t0 ≤ j.start ∧ j.stop ≤ t1 := fun j hj =>
    ⟨(tiles.mem hj).1, Int64.le_trans (tiles.mem hj).2.2 le⟩
  rw [compress, items_compressFrom, run] at h
  rcases h with raw | compressed
  · have mem : i ∈ spans := by
      rcases List.mem_append.1 raw with mem | mem
      · simpa using mem
      · exact absurd mem (ends.not_ok i)
    exact ⟨(tiles.mem mem).2.1, within i mem⟩
  · have closed : ending = [] ∨ ∃ e, ending = [.error e] := by
      rcases ends with done | ⟨e, -, failed, -⟩
      · exact .inl done.1
      · exact .inr ⟨e, failed⟩
    obtain ⟨runs, merged, mem⟩ := exists_merged_of_mem closed compressed
    have order := merged.inOrder (tiles.inOrder.sublist List.filter_sublist)
    obtain ⟨first, hfirst, start, -⟩ := merged.start_mem mem
    obtain ⟨last, hlast, stop⟩ := merged.stop_mem mem
    refine ⟨order.proper i mem, ?_, ?_⟩
    · rw [start]
      exact (within first (List.mem_of_mem_filter hfirst)).1
    · rw [stop]
      exact (within last (List.mem_of_mem_filter hlast)).2

/-- The length of an interval, raw or merged, is the number of its ticks, and there is one if that
number is below `2 ^ 63`, as it is in every window of fewer ticks. The intervals of a stream without
an error fill the window, so their lengths sum up to it if none of them overflows. -/
theorem durations_of_items (lt : t0 < t1) :
    (∀ i : Interval, .ok i ∈ ((e.courseBy cut t0 t1).items source s).1 ∨
        .ok i ∈ ((e.courseBy cut t0 t1).compress.items source s).1 →
      0 < i.extent ∧ i.extent ≤ t1.toInt - t0.toInt ∧
      (∀ d, i.duration = some d ↔ d.toInt = i.extent) ∧
      (i.duration = none ↔ 2 ^ 63 ≤ i.extent)) ∧
    ∀ spans : List Interval, ((e.courseBy cut t0 t1).items source s).1 = spans.map .ok →
      (spans.map Interval.extent).sum = t1.toInt - t0.toInt ∧
      (∀ lengths, spans.mapM Interval.duration = some lengths →
        (lengths.map (·.toInt)).sum = t1.toInt - t0.toInt) ∧
      (spans.mapM Interval.duration = none ↔ ∃ i ∈ spans, 2 ^ 63 ≤ i.extent) := by
  refine ⟨fun i mem => ?_, fun spans faultless => ?_⟩
  · obtain ⟨proper, after, before⟩ := inside_of_mem cut e source s lt mem
    have start := Int64.le_iff_toInt_le.1 after
    have stop := Int64.le_iff_toInt_le.1 before
    refine ⟨Interval.extent_pos proper, ?_, fun d => Interval.duration_eq_some_iff,
      Interval.duration_eq_none_iff proper⟩
    unfold Interval.extent
    omega
  · have tiles := ((e.keeps_courseBy cut lt).tiles_of_items (Contract.within_served _ source)
      trivial faultless).1
    refine ⟨tiles.sum_extent, fun lengths fit => ?_,
      mapM_duration_eq_none_iff fun i hi => (tiles.mem hi).2.1⟩
    rw [toInt_of_mapM_duration fit, tiles.sum_extent]

end Items

def halvedSource : Source Unit :=
  fun _ => pure (.ok [⟨Int64.minValue, 1⟩, ⟨-1, 2⟩, ⟨0, 3⟩])

def halves : List Interval :=
  [⟨Int64.minValue, -1, .number 1⟩, ⟨-1, 0, .number 2⟩, ⟨0, Int64.maxValue, .number 3⟩]

theorem items_halved :
    (((Expr.variable "A").courseBy Sample.firstCut Int64.minValue Int64.maxValue).items
        halvedSource ()).1 = halves.map .ok := rfl

theorem durations_of_items_halved :
    Int64.minValue < Int64.maxValue ∧
      (∀ d, (⟨Int64.minValue, -1, .number 1⟩ : Interval).duration = some d ↔
        d.toInt = 2 ^ 63 - 1) ∧
      halves.mapM Interval.duration = some [Int64.maxValue, 1, Int64.maxValue] ∧
      ([Int64.maxValue, 1, Int64.maxValue].map (·.toInt)).sum =
        Int64.maxValue.toInt - Int64.minValue.toInt := by
  have lt : Int64.minValue < Int64.maxValue := by decide
  obtain ⟨each, whole⟩ := durations_of_items Sample.firstCut (.variable "A") halvedSource () lt
  rw [items_halved] at each
  obtain ⟨-, -, length, -⟩ := each ⟨Int64.minValue, -1, .number 1⟩ (.inl (by simp [halves]))
  have lengths : halves.mapM Interval.duration = some [Int64.maxValue, 1, Int64.maxValue] := by
    decide
  exact ⟨lt, length, lengths, (whole _ items_halved).2.1 _ lengths⟩

/-- Over the longest window a constant has a single interval, and its length overflows. -/
theorem duration_overflow :
    ∃ i : Interval,
      (((Expr.literal 1).course Int64.minValue Int64.maxValue).items halvedSource ()).1 = [.ok i] ∧
      (((Expr.literal 1).course Int64.minValue Int64.maxValue).compress.items halvedSource ()).1 =
        [.ok i] ∧
      i.extent = 2 ^ 64 - 1 ∧ i.duration = none :=
  ⟨⟨Int64.minValue, Int64.maxValue, .number 1⟩, rfl, rfl, by decide, by decide⟩

end SpanQuery
