import SpanQuery.Archive
import SpanQuery.Proofs.Compression.Merged
import SpanQuery.Proofs.Evaluation.Pointwise

namespace SpanQuery

/-! ## Conditions -/

/-- The maximal spans between `low` and `stop` in which something holds. -/
structure TrueRuns (low stop : Tick) (holds : Tick → Prop) (runs : List Interval) : Prop where
  value : ∀ r ∈ runs, r.value = .bool true
  proper : ∀ r ∈ runs, low ≤ r.start ∧ r.start < r.stop ∧ r.stop ≤ stop
  apart : runs.Pairwise fun r later => r.stop < later.start
  covers : ∀ t, (∃ r ∈ runs, r.start ≤ t ∧ t < r.stop) ↔ holds t

theorem TrueRuns.congr {low stop : Tick} {holds also : Tick → Prop} {runs : List Interval}
    (h : TrueRuns low stop holds runs) (same : ∀ t, holds t ↔ also t) :
    TrueRuns low stop also runs :=
  ⟨h.value, h.proper, h.apart, fun t => (h.covers t).trans (same t)⟩

def heldBy (pending : Option Interval) (spans : List Interval) (t : Tick) : Prop :=
  (∃ p ∈ pending, p.start ≤ t ∧ t < p.stop) ∨
    ∃ i ∈ spans, i.value = .bool true ∧ i.start ≤ t ∧ t < i.stop

/-- A true interval from `low` on that ends by `t` and waits for what touches it. -/
structure Pends (low t : Tick) (p : Interval) : Prop where
  value : p.value = .bool true
  low_le : low ≤ p.start
  proper : p.start < p.stop
  stop_le : p.stop ≤ t

theorem Merged.apart_of_true {kept runs : List Interval} (h : Merged kept runs)
    (order : InOrder kept) (value : ∀ i ∈ kept, i.value = .bool true) :
    runs.Pairwise fun r later => r.stop < later.start := by
  induction h with
  | nil => exact .nil
  | single p => exact List.pairwise_singleton _ p
  | joined join _ ih =>
      obtain ⟨touch, rfl⟩ := Interval.of_join? join
      obtain ⟨first, -, rest⟩ := List.forall_mem_cons.1 value |>.imp_right List.forall_mem_cons.1
      exact ih (order.joined touch) (List.forall_mem_cons.2 ⟨first, rest⟩)
  | @apart p i rest runs join more ih =>
      obtain ⟨first, tail⟩ := List.forall_mem_cons.1 value
      have behind := order.sublist (List.sublist_cons_self _ _)
      refine List.pairwise_cons.2 ⟨fun r hr => ?_, ih behind tail⟩
      have before := (List.pairwise_cons.1 order.ordered).1
      have gap : p.stop < i.start := by
        refine Int64.lt_of_le_of_ne (before i List.mem_cons_self) fun touch => ?_
        refine Interval.join?_eq_none_iff.1 join ⟨touch, ?_⟩
        rw [first, tail i List.mem_cons_self]
        rfl
      obtain ⟨j, hj, start, -⟩ := more.start_mem hr
      rw [start]
      rcases List.mem_cons.1 hj with rfl | hj
      · exact gap
      · have next := (List.pairwise_cons.1 behind.ordered).1 j hj
        exact Int64.lt_of_lt_of_le (Int64.lt_trans gap (behind.proper i List.mem_cons_self)) next

theorem Value.isFalse_of_boolean {v : Value} (h : v.kind = .boolean) :
    v.isFalse = false ↔ v = .bool true := by
  rcases v with n | (_ | _)
  · cases h
  · simp [isFalse]
  · simp [isFalse]

theorem mem_kept {pending : Option Interval} {spans : List Interval}
    (condition : ∀ i ∈ spans, i.value.kind = .boolean) (i : Interval) :
    i ∈ pending.toList ++ spans.filter (!·.value.isFalse) ↔
      i ∈ pending ∨ (i ∈ spans ∧ i.value = .bool true) := by
  simp only [List.mem_append, Option.mem_toList, List.mem_filter, Bool.not_eq_true']
  exact or_congr_right (and_congr_right fun hi => Value.isFalse_of_boolean (condition i hi))

theorem spanned_kept {pending : Option Interval} {spans : List Interval}
    (condition : ∀ i ∈ spans, i.value.kind = .boolean) (t : Tick) :
    Spanned (pending.toList ++ spans.filter (!·.value.isFalse)) t ↔ heldBy pending spans t := by
  simp only [Spanned, heldBy, mem_kept condition, or_and_right, exists_or, and_assoc]

theorem inOrder_kept {t stop : Tick} {spans : List Interval} (tiles : Tiles t stop spans)
    {low : Tick} {pending : Option Interval} (before : ∀ p ∈ pending, Pends low t p) :
    InOrder (pending.toList ++ spans.filter (!·.value.isFalse)) := by
  have behind : InOrder (spans.filter (!·.value.isFalse)) :=
    tiles.inOrder.sublist List.filter_sublist
  cases pending with
  | none => exact behind
  | some p =>
      obtain ⟨-, -, proper, stop_le⟩ := before p rfl
      refine ⟨List.forall_mem_cons.2 ⟨proper, behind.proper⟩,
        List.pairwise_cons.2 ⟨fun i hi => ?_, behind.ordered⟩⟩
      exact Int64.le_trans stop_le (tiles.mem (List.mem_filter.1 hi).1).1

theorem trueRuns_compressItems {t stop : Tick} {spans : List Interval} (tiles : Tiles t stop spans)
    (condition : ∀ i ∈ spans, i.value.kind = .boolean) {low : Tick} (hlow : low ≤ t)
    (pending : Option Interval) (before : ∀ p ∈ pending, Pends low t p) :
    ∃ runs : List Interval, compressItems pending (spans.map .ok) = runs.map .ok ∧
      TrueRuns low stop (heldBy pending spans) runs := by
  obtain ⟨runs, run, merged⟩ := merged_compressItems pending spans
  have order := inOrder_kept tiles before
  have within : ∀ i ∈ pending.toList ++ spans.filter (!·.value.isFalse),
      i.value = .bool true ∧ low ≤ i.start ∧ i.stop ≤ stop := by
    intro i hi
    rcases (mem_kept condition i).1 hi with hi | ⟨hi, value⟩
    · obtain ⟨value, low_le, -, stop_le⟩ := before i hi
      exact ⟨value, low_le, Int64.le_trans stop_le tiles.le⟩
    · obtain ⟨start_le, -, stop_le⟩ := tiles.mem hi
      exact ⟨value, Int64.le_trans hlow start_le, stop_le⟩
  refine ⟨runs, run, fun r hr => ?_, fun r hr => ⟨?_, (merged.inOrder order).proper r hr, ?_⟩,
    merged.apart_of_true order fun i hi => (within i hi).1,
    fun t => (merged.spanned_iff order t).trans (spanned_kept condition t)⟩
  · obtain ⟨i, hi, -, value⟩ := merged.start_mem hr
    exact value.trans (within i hi).1
  · obtain ⟨i, hi, start, -⟩ := merged.start_mem hr
    exact start ▸ (within i hi).2.1
  · obtain ⟨i, hi, stop⟩ := merged.stop_mem hr
    exact stop ▸ (within i hi).2.2

/-! ## Searches -/

theorem Archive.warm_memory (prefetch : Bool) (e : Expr) (t0 t1 : Tick) (m : Memory) :
    (⟨Memory.source, prefetch⟩ : Archive Memory).warm e t0 t1 m = ((), m) := by
  unfold warm
  induction e.variableNames with
  | nil => rfl
  | cons name names ih => exact ih

theorem Archive.searchRanges_memory (prefetch : Bool) (e : Expr) (t0 t1 : Tick) (m : Memory) :
    (⟨Memory.source, prefetch⟩ : Archive Memory).searchRanges e t0 t1 m = (e.course t0 t1, m) := by
  cases prefetch with
  | false => rfl
  | true =>
      have warm := warm_memory true e t0 t1 m
      exact congrArg (fun p : Unit × Memory => (e.course t0 t1, p.2)) warm

theorem Archive.findRanges_memory (prefetch : Bool) (e : Expr) (t0 t1 : Tick) (m : Memory) :
    (⟨Memory.source, prefetch⟩ : Archive Memory).findRanges e t0 t1 m =
      ((e.course t0 t1).compress, m) := by
  have searched := searchRanges_memory prefetch e t0 t1 m
  exact congrArg (fun p : Course Request Answer × Memory => (p.1.compress, p.2)) searched

def Archive.foundItems (a : Archive σ) (e : Expr) (t0 t1 : Tick) : StateM σ (List Item) := do
  (← a.findRanges e t0 t1).items a.source

theorem Archive.foundItems_memory (prefetch : Bool) (e : Expr) (t0 t1 : Tick) (m : Memory) :
    ((⟨Memory.source, prefetch⟩ : Archive Memory).foundItems e t0 t1 m).1 =
      compressItems none ((e.course t0 t1).items Memory.source m).1 := by
  have found := findRanges_memory prefetch e t0 t1 m
  change ((((⟨Memory.source, prefetch⟩ : Archive Memory).findRanges e t0 t1 m).1.items Memory.source)
    ((⟨Memory.source, prefetch⟩ : Archive Memory).findRanges e t0 t1 m).2).1 = _
  rw [found]
  exact congrArg Prod.fst (items_compressFrom Memory.source (e.course t0 t1) none m)

theorem Expr.exists_span_iff {m : Memory} {e : Expr} {t0 t1 : Tick} {spans : List Interval}
    (tiles : Tiles t0 t1 spans)
    (values : ∀ i ∈ spans, ∀ t, i.start ≤ t → t < i.stop → e.valueAt m t = .ok i.value)
    (p : Value → Prop) (t : Tick) :
    (∃ i ∈ spans, p i.value ∧ i.start ≤ t ∧ t < i.stop) ↔
      t0 ≤ t ∧ t < t1 ∧ ∃ value, e.valueAt m t = .ok value ∧ p value := by
  constructor
  · rintro ⟨i, hi, value, hstart, hstop⟩
    obtain ⟨ht0, -, ht1⟩ := tiles.mem hi
    exact ⟨Int64.le_trans ht0 hstart, Int64.lt_of_lt_of_le hstop ht1, i.value,
      values i hi t hstart hstop, value⟩
  · rintro ⟨ht0, ht1, value, holds, h⟩
    obtain ⟨i, hi, hstart, hstop⟩ := (tiles.exists_mem_iff t).2 ⟨ht0, ht1⟩
    obtain rfl := Except.ok.inj ((values i hi t hstart hstop).symm.trans holds)
    exact ⟨i, hi, h, hstart, hstop⟩

theorem Expr.heldBy_spans {m : Memory} {e : Expr} {t0 t1 : Tick} {spans : List Interval}
    (tiles : Tiles t0 t1 spans)
    (values : ∀ i ∈ spans, ∀ t, i.start ≤ t → t < i.stop → e.valueAt m t = .ok i.value) (t : Tick) :
    heldBy none spans t ↔ t0 ≤ t ∧ t < t1 ∧ e.valueAt m t = .ok (.bool true) := by
  simpa [heldBy] using e.exists_span_iff tiles values (· = .bool true) t

/-- Where a condition is true or false over a whole window, a search finds the maximal spans in which
it is true, evaluated at every tick for itself. -/
theorem foundItems_trueRuns (m : Memory) (prefetch : Bool) (e : Expr) {t0 t1 : Tick}
    (lt : t0 < t1) {spans : List Interval}
    (faultless : ((e.course t0 t1).items Memory.source m).1 = spans.map .ok)
    (condition : ∀ i ∈ spans, i.value.kind = .boolean) :
    ∃ runs : List Interval,
      ((⟨Memory.source, prefetch⟩ : Archive Memory).foundItems e t0 t1 m).1 = runs.map .ok ∧
      TrueRuns t0 t1 (fun t => t0 ≤ t ∧ t < t1 ∧ e.valueAt m t = .ok (.bool true)) runs := by
  obtain ⟨reach, pieces, ending, run, -, -, tiles, -, values, ends⟩ := items_agree m e lt
  rw [faultless] at run
  rcases ends with ⟨rfl, rfl⟩ | ⟨-, fault, last, -, -, -, rfl⟩
  · rw [List.append_nil, List.map_inj_right fun _ _ => Except.ok.inj] at run
    subst run
    obtain ⟨runs, found, h⟩ := trueRuns_compressItems tiles condition Int64.le_rfl none nofun
    rw [Archive.foundItems_memory, faultless]
    exact ⟨runs, found, h.congr (e.heldBy_spans tiles values)⟩
  · have member : .error (fault.over reach last) ∈ spans.map (Except.ok : Interval → Item) := by
      rw [run]
      simp
    simp at member

theorem foundItems_trueRuns_touching :
    let m := (((Memory.empty.push "A" ⟨0, 2⟩).push "A" ⟨3, 3⟩).push "A" ⟨5, 0⟩).push "A" ⟨7, 4⟩
    let e := Expr.binary .gt (.variable "A") (.literal 1)
    let spans : List Interval :=
      [⟨0, 3, .bool true⟩, ⟨3, 5, .bool true⟩, ⟨5, 7, .bool false⟩, ⟨7, 10, .bool true⟩]
    ((0 : Tick) < 10 ∧ ((e.course 0 10).items Memory.source m).1 = spans.map .ok ∧
      ∀ i ∈ spans, i.value.kind = .boolean) ∧
    ∃ runs : List Interval,
      ((⟨Memory.source, true⟩ : Archive Memory).foundItems e 0 10 m).1 = runs.map .ok ∧
      TrueRuns 0 10 (fun t => 0 ≤ t ∧ t < 10 ∧ e.valueAt m t = .ok (.bool true)) runs := by
  intro m e spans
  have lt : (0 : Tick) < 10 := by decide
  have faultless : ((e.course 0 10).items Memory.source m).1 = spans.map .ok := rfl
  have condition : ∀ i ∈ spans, i.value.kind = .boolean := by simp [spans, Value.kind]
  exact ⟨⟨lt, faultless, condition⟩, foundItems_trueRuns m true e lt faultless condition⟩

end SpanQuery
