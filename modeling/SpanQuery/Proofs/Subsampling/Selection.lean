import Mathlib.Data.List.TakeDrop
import SpanQuery.Subsampling
import SpanQuery.Proofs.Sample.Slice

namespace SpanQuery

def Interval.touches (i : Interval) (t : Tick) : Bool :=
  i.start ≤ t && t ≤ i.stop

def Interval.cut (i : Interval) (series : List Sample) : List Sample × List Sample :=
  (series.dropWhile (·.timestamp < i.start)).span (·.timestamp ≤ i.stop)

/-- What sub-sampling makes of items. -/
def subsampleItems : List Item → List Sample → Except QueryError (List Sample)
  | _, [] => .ok []
  | [], _ => .ok []
  | .error e :: _, _ => .error e
  | .ok i :: rest, series => (subsampleItems rest (i.cut series).2).map ((i.cut series).1 ++ ·)

@[simp] theorem subsampleItems_nil (items : List Item) : subsampleItems items [] = .ok [] := by
  cases items <;> rfl

theorem subsampleItems_cons (i : Interval) (rest : List Item) (series : List Sample) :
    subsampleItems (.ok i :: rest) series =
      (subsampleItems rest (i.cut series).2).map ((i.cut series).1 ++ ·) := by
  cases series with
  | nil => simp [Interval.cut, List.span_eq_takeWhile_dropWhile, Except.map]
  | cons s later => rfl

theorem subsampleItems_cons_eq_ok_iff {i : Interval} {rest : List Item}
    {series kept : List Sample} :
    subsampleItems (.ok i :: rest) series = .ok kept ↔
      ∃ more, subsampleItems rest (i.cut series).2 = .ok more ∧
        (i.cut series).1 ++ more = kept := by
  rw [subsampleItems_cons]
  cases subsampleItems rest (i.cut series).2 <;> simp [Except.map]

theorem subsampleItems_cons_eq_error_iff {i : Interval} {rest : List Item} {series : List Sample}
    {e : QueryError} :
    subsampleItems (.ok i :: rest) series = .error e ↔
      subsampleItems rest (i.cut series).2 = .error e := by
  rw [subsampleItems_cons]
  cases subsampleItems rest (i.cut series).2 <;> simp [Except.map]

theorem Interval.cut_append (i : Interval) (series : List Sample) :
    (i.cut series).1 ++ (i.cut series).2 = series.dropWhile (·.timestamp < i.start) := by
  rw [cut, List.span_eq_takeWhile_dropWhile, List.takeWhile_append_dropWhile]

theorem subsampleItems_sublist {items : List Item} {series kept : List Sample}
    (run : subsampleItems items series = .ok kept) : kept.Sublist series := by
  induction items generalizing series kept with
  | nil =>
      cases series <;> cases run <;> exact List.nil_sublist _
  | cons item rest ih =>
      cases item with
      | error e =>
          cases series <;> cases run
          exact List.nil_sublist _
      | ok i =>
          obtain ⟨more, inner, rfl⟩ := subsampleItems_cons_eq_ok_iff.1 run
          have part := (List.Sublist.refl (i.cut series).1).append (ih inner)
          rw [i.cut_append series] at part
          exact part.trans (List.dropWhile_sublist _)

theorem Course.subsample_eq (asking : ρ → StateM σ α) (c : Course ρ α) (series : List Sample)
    (s : σ) :
    (c.subsample asking series s).1 = subsampleItems (c.items asking s).1 series := by
  induction c generalizing series s with
  | done => cases series <;> rfl
  | fail e => cases series <;> rfl
  | emit i next ih =>
      cases series with
      | nil => rfl
      | cons first later => exact congrArg (Except.map _) (ih () (i.cut (first :: later)).2 s)
  | ask q answer ih =>
      cases series with
      | nil => exact (subsampleItems_nil _).symm
      | cons first later => exact ih _ (first :: later) _

/-! ## Intervals in order -/

section Ordered
variable {series : List Sample} (ordered : Sample.Ordered series)
include ordered

theorem Interval.cut_eq {i : Interval} (proper : i.start ≤ i.stop) :
    i.cut series =
      ((Sample.upTo i.stop series).filter (i.touches ·.timestamp), Sample.after i.stop series) := by
  have late : series.dropWhile (·.timestamp < i.start) =
      series.filter (i.start ≤ ·.timestamp) := (ordered.takeWhile_lt i.start).2
  have rest : Sample.Ordered (series.filter (i.start ≤ ·.timestamp)) :=
    ordered.sublist List.filter_sublist
  calc i.cut series
      = (Sample.upTo i.stop (series.filter (i.start ≤ ·.timestamp)),
          Sample.after i.stop (series.filter (i.start ≤ ·.timestamp))) := by
        rw [Interval.cut, late, List.span_eq_takeWhile_dropWhile]
        rfl
    _ = ((Sample.upTo i.stop series).filter (i.touches ·.timestamp),
          Sample.after i.stop series) := by
        rw [(rest.upTo_eq i.stop).1, (rest.upTo_eq i.stop).2, (ordered.upTo_eq i.stop).1,
          (ordered.upTo_eq i.stop).2, List.filter_filter, List.filter_filter, List.filter_filter]
        congr 2 <;> funext s <;> grind [Interval.touches]

theorem filter_touches_cons {i : Interval} {rest : List Interval} (proper : i.start ≤ i.stop)
    (behind : ∀ j ∈ rest, i.stop ≤ j.start) :
    series.filter (fun s => (i :: rest).any (·.touches s.timestamp)) =
      (Sample.upTo i.stop series).filter (i.touches ·.timestamp) ++
        (Sample.after i.stop series).filter fun s => rest.any (·.touches s.timestamp) := by
  conv =>
    lhs
    rw [← Sample.upTo_append_after i.stop series, List.filter_append]
  congr 1
  · refine List.filter_congr fun s hs => ?_
    have le := Sample.le_of_mem_upTo hs
    -- A later interval can touch no tick before the end of the first one.
    have first : rest.any (·.touches s.timestamp) → i.touches s.timestamp := by
      rw [List.any_eq_true]
      rintro ⟨j, hj, touches⟩
      have := behind j hj
      grind [Interval.touches]
    rw [List.any_cons]
    grind
  · refine List.filter_congr fun s hs => ?_
    have lt := Sample.lt_of_mem_after ordered hs
    have past : i.touches s.timestamp = false := by
      grind [Interval.touches]
    rw [List.any_cons, past, Bool.false_or]

theorem subsampleItems_eq_filter {spans : List Interval}
    (proper : ∀ i ∈ spans, i.start ≤ i.stop)
    (inOrder : spans.Pairwise fun i later => i.stop ≤ later.start) :
    subsampleItems (spans.map .ok) series =
      .ok (series.filter fun s => spans.any (·.touches s.timestamp)) := by
  induction spans generalizing series with
  | nil => cases series <;> simp [subsampleItems]
  | cons i rest ih =>
      obtain ⟨first, proper⟩ := List.forall_mem_cons.1 proper
      obtain ⟨behind, inOrder⟩ := List.pairwise_cons.1 inOrder
      rw [List.map_cons, subsampleItems_cons, Interval.cut_eq ordered first,
        ih (ordered.after i.stop) proper inOrder, filter_touches_cons ordered first behind]
      rfl

end Ordered

end SpanQuery
