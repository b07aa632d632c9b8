import SpanQuery.Proofs.Evaluation.Partition
import SpanQuery.Proofs.Evaluation.Pointwise

/-!
# Cut windows

A window without an error can be cut at any tick: the items of its two parts, one behind the other,
are those of the whole window with the interval around that tick cut in two. What makes this true is
that nothing is left to choose, for the intervals of a window are known from where they start and
from the values at these ticks (`Tiles.eq_of_values`).
-/

namespace SpanQuery

open Course

/-! ## Tilings -/

/-- The two halves of an interval that has the tick inside; any other interval as it is. -/
def Interval.cutAt (t : Tick) (i : Interval) : List Interval :=
  if i.start < t ∧ t < i.stop then [{ i with stop := t }, { i with start := t }] else [i]

theorem Interval.of_mem_cutAt {t : Tick} {i half : Interval} (proper : i.start < i.stop)
    (mem : half ∈ i.cutAt t) :
    i.start ≤ half.start ∧ half.start < i.stop ∧ half.value = i.value := by
  unfold Interval.cutAt at mem
  split at mem
  · rename_i inside
    rw [List.mem_cons, List.mem_singleton] at mem
    rcases mem with rfl | rfl
    · exact ⟨Int64.le_rfl, proper, rfl⟩
    · exact ⟨Int64.le_of_lt inside.1, inside.2, rfl⟩
  · obtain rfl := List.mem_singleton.1 mem
    exact ⟨Int64.le_rfl, proper, rfl⟩

namespace Tiles

variable {start mid stop t : Tick} {spans spans' : List Interval}

theorem append (h : Tiles start mid spans) (h' : Tiles mid stop spans') :
    Tiles start stop (spans ++ spans') := by
  induction spans generalizing start with
  | nil =>
      obtain rfl : start = mid := h
      exact h'
  | cons i rest ih =>
      obtain ⟨here, proper, later⟩ := h
      exact ⟨here, proper, ih later⟩

theorem single {i : Interval} (proper : i.start < i.stop) : Tiles i.start i.stop [i] :=
  ⟨rfl, proper, rfl⟩

theorem cutAt (h : Tiles start stop spans) (t : Tick) :
    Tiles start stop (spans.flatMap (·.cutAt t)) := by
  induction spans generalizing start with
  | nil => exact h
  | cons i rest ih =>
      obtain ⟨rfl, proper, later⟩ := h
      have first : Tiles i.start i.stop (i.cutAt t) := by
        unfold Interval.cutAt
        split
        · rename_i inside
          exact ⟨rfl, inside.1, rfl, inside.2, rfl⟩
        · exact single proper
      rw [List.flatMap_cons]
      exact first.append (ih later)

theorem mem_starts_cutAt (h : Tiles start stop spans) (le : start ≤ t) (lt : t < stop) (u : Tick) :
    u ∈ (spans.flatMap (·.cutAt t)).map (·.start) ↔ u ∈ spans.map (·.start) ∨ u = t := by
  have starts (i : Interval) : u ∈ (i.cutAt t).map (·.start) ↔
      u = i.start ∨ u = t ∧ i.start < t ∧ t < i.stop := by
    unfold Interval.cutAt
    split
    · rename_i inside
      simp [inside]
    · rename_i outside
      simp [outside]
  have whole : u ∈ (spans.flatMap (·.cutAt t)).map (·.start) ↔
      ∃ i ∈ spans, u = i.start ∨ u = t ∧ i.start < t ∧ t < i.stop := by
    rw [List.map_flatMap, List.mem_flatMap]
    simp only [starts]
  rw [whole]
  constructor
  · rintro ⟨i, hi, rfl | ⟨rfl, -⟩⟩
    · exact .inl (List.mem_map_of_mem hi)
    · exact .inr rfl
  · rintro (mem | rfl)
    · obtain ⟨i, hi, rfl⟩ := List.mem_map.1 mem
      exact ⟨i, hi, .inl rfl⟩
    · obtain ⟨i, hi, begins, ends⟩ := (h.exists_mem_iff u).2 ⟨le, lt⟩
      rcases Int64.lt_or_eq_of_le begins with inside | here
      · exact ⟨i, hi, .inr ⟨rfl, inside, ends⟩⟩
      · exact ⟨i, hi, .inl here.symm⟩

theorem eq_of_values (value : Tick → Except PointFault Value) (h : Tiles start stop spans)
    (h' : Tiles start stop spans')
    (same : ∀ t, t ∈ spans.map (·.start) ↔ t ∈ spans'.map (·.start))
    (given : ∀ i ∈ spans, value i.start = .ok i.value)
    (given' : ∀ i ∈ spans', value i.start = .ok i.value) : spans = spans' := by
  have bounds := h.bounds_eq h' same
  clear h h' same
  induction spans generalizing spans' with
  | nil =>
      rw [List.map_nil, eq_comm, List.map_eq_nil_iff] at bounds
      exact bounds.symm
  | cons i rest ih =>
      cases spans' with
      | nil => cases bounds
      | cons j rest' =>
          obtain ⟨first, later⟩ := List.forall_mem_cons.1 given
          obtain ⟨first', later'⟩ := List.forall_mem_cons.1 given'
          rw [List.map_cons, List.map_cons, List.cons.injEq] at bounds
          obtain ⟨a, b, v⟩ := i
          obtain ⟨a', b', v'⟩ := j
          obtain ⟨rfl, rfl⟩ := Prod.mk.inj bounds.1
          obtain rfl : v = v' := Except.ok.inj (first.symm.trans first')
          rw [ih later later' bounds.2]

end Tiles

/-! ## Windows without an error -/

namespace Expr

variable {m : Memory} {e : Expr} {t0 t1 : Tick} (lt : t0 < t1)
include lt

theorem values_of_items {spans : List Interval}
    (faultless : ((e.course t0 t1).items Memory.source m).1 = spans.map .ok) :
    ∀ i ∈ spans, ∀ t, i.start ≤ t → t < i.stop → e.valueAt m t = .ok i.value :=
  ((e.keeps_course_pointwise m lt).tiles_of_items (Contract.pointwise_served m _) rfl faultless).2

theorem faultless_of_values (valued : ∀ t, t0 ≤ t → t < t1 → ∃ value, e.valueAt m t = .ok value) :
    ∃ spans : List Interval, ((e.course t0 t1).items Memory.source m).1 = spans.map .ok := by
  obtain ⟨reach, spans, ending, run, tiles, le, -, ends⟩ :=
    (e.keeps_course_pointwise m lt).items (Contract.pointwise_served m _) rfl
  rcases ends with ⟨rfl, -⟩ | ⟨error, last, -, before, inside, fault, failed, -⟩
  · exact ⟨spans, by rw [run, List.append_nil]⟩
  · obtain ⟨value, here⟩ := valued reach tiles.le (Int64.lt_of_lt_of_le before inside)
    exact absurd (here.symm.trans failed) nofun

theorem faultless_within {spans : List Interval}
    (faultless : ((e.course t0 t1).items Memory.source m).1 = spans.map .ok) {a b : Tick}
    (le : t0 ≤ a) (proper : a < b) (le' : b ≤ t1) :
    ∃ part : List Interval, ((e.course a b).items Memory.source m).1 = part.map .ok := by
  have tiles := (tiles_of_items lt faultless).1
  apply faultless_of_values proper
  intro t after before
  have inside : t0 ≤ t ∧ t < t1 :=
    ⟨Int64.le_trans le after, Int64.lt_of_lt_of_le before le'⟩
  obtain ⟨i, hi, begins, ends⟩ := (tiles.exists_mem_iff t).2 inside
  exact ⟨i.value, values_of_items lt faultless i hi t begins ends⟩

end Expr

/-- A window in which an expression does not fail may be cut at any tick inside: it does not fail in
either part, and the intervals of the parts are those of the window, the one around the tick cut in
two. -/
theorem items_cut (m : Memory) (e : Expr) {t0 mid t1 : Tick} (before : t0 < mid) (behind : mid < t1)
    {spans : List Interval}
    (faultless : ((e.course t0 t1).items Memory.source m).1 = spans.map .ok) :
    ∃ left right : List Interval,
      ((e.course t0 mid).items Memory.source m).1 = left.map .ok ∧
      ((e.course mid t1).items Memory.source m).1 = right.map .ok ∧
      left ++ right = spans.flatMap (·.cutAt mid) := by
  have lt : t0 < t1 := Int64.lt_trans before behind
  obtain ⟨left, faultlessLeft⟩ :=
    Expr.faultless_within lt faultless Int64.le_rfl before (Int64.le_of_lt behind)
  obtain ⟨right, faultlessRight⟩ :=
    Expr.faultless_within lt faultless (Int64.le_of_lt before) behind Int64.le_rfl
  refine ⟨left, right, faultlessLeft, faultlessRight, ?_⟩
  have tiles := (Expr.tiles_of_items lt faultless).1
  have tilesLeft := (Expr.tiles_of_items before faultlessLeft).1
  have tilesRight := (Expr.tiles_of_items behind faultlessRight).1
  -- Both sides tile the window, so their starts and the values there determine them.
  have starts (t : Tick) : t ∈ (left ++ right).map (·.start) ↔
      t ∈ (spans.flatMap (·.cutAt mid)).map (·.start) := by
    rw [tiles.mem_starts_cutAt (Int64.le_of_lt before) behind, List.map_append, List.mem_append,
      Expr.mem_starts_iff before faultlessLeft, Expr.mem_starts_iff behind faultlessRight,
      Expr.mem_starts_iff lt faultless]
    grind
  have valued : ∀ i ∈ left ++ right, e.valueAt m i.start = .ok i.value := by
    intro i hi
    rcases List.mem_append.1 hi with hi | hi
    · exact Expr.values_of_items before faultlessLeft i hi i.start Int64.le_rfl (tilesLeft.mem hi).2.1
    · exact Expr.values_of_items behind faultlessRight i hi i.start Int64.le_rfl
        (tilesRight.mem hi).2.1
  have valuedHalves : ∀ i ∈ spans.flatMap (·.cutAt mid), e.valueAt m i.start = .ok i.value := by
    intro half mem
    obtain ⟨i, hi, mem⟩ := List.mem_flatMap.1 mem
    obtain ⟨begins, ends, value⟩ := i.of_mem_cutAt (tiles.mem hi).2.1 mem
    rw [value]
    exact Expr.values_of_items lt faultless i hi half.start begins ends
  exact Tiles.eq_of_values (fun t => e.valueAt m t) (tilesLeft.append tilesRight) (tiles.cutAt mid)
    starts valued valuedHalves

theorem items_cut_between :
    let m := ((((Memory.empty.push "A" ⟨0, 2⟩).push "A" ⟨3, 3⟩).push "A" ⟨3, 4⟩).push "A"
      ⟨10, 0⟩).push "B" ⟨-2, 1⟩ |>.push "B" ⟨5, 6⟩
    let e := Expr.binary .sub (.variable "A") (.variable "B")
    let spans : List Interval :=
      [⟨0, 3, .number (2 - 1)⟩, ⟨3, 5, .number (4 - 1)⟩, ⟨5, 10, .number (4 - 6)⟩]
    ((0 : Tick) < 4 ∧ (4 : Tick) < 10 ∧
      ((e.course 0 10).items Memory.source m).1 = spans.map .ok) ∧
    ∃ left right : List Interval,
      ((e.course 0 4).items Memory.source m).1 = left.map .ok ∧
      ((e.course 4 10).items Memory.source m).1 = right.map .ok ∧
      left ++ right = [⟨0, 3, .number (2 - 1)⟩, ⟨3, 4, .number (4 - 1)⟩, ⟨4, 5, .number (4 - 1)⟩,
        ⟨5, 10, .number (4 - 6)⟩] := by
  intro m e spans
  have before : (0 : Tick) < 4 := by decide
  have behind : (4 : Tick) < 10 := by decide
  have faultless : ((e.course 0 10).items Memory.source m).1 = spans.map .ok := rfl
  exact ⟨⟨before, behind, faultless⟩, items_cut m e before behind faultless⟩

end SpanQuery
