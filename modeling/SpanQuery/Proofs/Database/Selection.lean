import Mathlib.Data.List.Nodup
import SpanQuery.Database.Source
import SpanQuery.Proofs.Sample.Slice

/-!
# Selected rows

Sorting by time and row number leaves no choice, so what the two statements select is a slice of all
rows with times, sorted once (`Database.selected_eq_slice`).
-/

namespace SpanQuery

namespace Cell

instance : Std.TransOrd Cell :=
  inferInstanceAs (Std.TransCmp (compareLex (compareOn rank)
    (compareLex (compareOn fun c => c.number?.getD 0) (compareOn bytes))))

theorem units_le_units (m n : Int) : units m ≤ units n ↔ m ≤ n :=
  Int.mul_le_mul_right (by decide)

theorem of_number? {c : Cell} {n : Int} (h : c.number? = some n) : c.rank = 1 ∧ c.bytes = [] := by
  cases c with
  | null | text | blob => cases h
  | integer => exact ⟨rfl, rfl⟩
  | real x => exact ⟨by rw [rank, h]; rfl, rfl⟩

theorem compare_of_number? {a b : Cell} {m n : Int} (ha : a.number? = some m)
    (hb : b.number? = some n) : compare a b = compare m n := by
  obtain ⟨class_a, bytes_a⟩ := of_number? ha
  obtain ⟨class_b, bytes_b⟩ := of_number? hb
  change compareLex _ _ a b = _
  simp [compareLex, compareOn, class_a, class_b, bytes_a, bytes_b, ha, hb]

theorem meets_of_number? {c : Cell} {n : Int} (h : c.number? = some n)
    (outcome : Ordering → Bool) (t : Tick) :
    c.meets outcome t = outcome (compare n (units t.toInt)) := by
  rw [meets, (of_number? h).1, compare_of_number? h (b := .integer t) rfl]
  rfl

theorem meets_of_no_number {c : Cell} (h : c.number? = none) {outcome : Ordering → Bool}
    (before : outcome .gt = false) (t : Tick) : c.meets outcome t = false := by
  cases c with
  | null => rfl
  | integer n => cases h
  | real x => rw [meets, rank, h]; rfl
  | text s | blob bytes => exact before

end Cell

namespace Database

def Row.time (r : Row) : Int :=
  r.reading.time.number?.getD 0

def Row.timed (r : Row) : Bool :=
  r.reading.time.number?.isSome

namespace Row

theorem number?_of_timed {r : Row} (h : r.timed) : r.reading.time.number? = some r.time := by
  obtain ⟨n, number⟩ := Option.isSome_iff_exists.1 h
  rw [time, number]
  rfl

section Meets
variable (r : Row) (t t' : Tick)

theorem meets_isLE :
    r.reading.time.meets (·.isLE) t = (decide (r.time ≤ Cell.units t.toInt) && r.timed) := by
  cases number : r.reading.time.number? with
  | none =>
      rw [Cell.meets_of_no_number number rfl, timed, number, Option.isSome_none, Bool.and_false]
  | some n =>
      rw [Cell.meets_of_number? number, timed, time, number, Option.isSome_some, Bool.and_true,
        Bool.eq_iff_iff, Int.isLE_compare, decide_eq_true_iff]
      rfl

theorem meets_between :
    (r.reading.time.meets (·.isGT) t && r.reading.time.meets (·.isLT) t') =
      (decide (Cell.units t.toInt < r.time ∧ r.time < Cell.units t'.toInt) && r.timed) := by
  cases number : r.reading.time.number? with
  | none =>
      have late : r.reading.time.meets (·.isLT) t' = false := Cell.meets_of_no_number number rfl t'
      rw [late, Bool.and_false, timed, number, Option.isSome_none, Bool.and_false]
  | some n =>
      rw [Cell.meets_of_number? number, Cell.meets_of_number? number, timed, time, number,
        Option.isSome_some, Bool.and_true, Bool.eq_iff_iff, Bool.and_eq_true,
        Ordering.isGT_iff_eq_gt, Ordering.isLT_iff_eq_lt, Int.compare_eq_gt, Int.compare_eq_lt,
        decide_eq_true_iff]
      rfl

end Meets

theorem earliestFirst_isLE_iff {a b : Row} (ha : a.timed) (hb : b.timed) :
    (earliestFirst a b).isLE ↔ a.time < b.time ∨ a.time = b.time ∧ a.number ≤ b.number := by
  have times : compare a.reading.time b.reading.time = compare a.time b.time :=
    Cell.compare_of_number? (number?_of_timed ha) (number?_of_timed hb)
  rw [earliestFirst, compareLex, Ordering.isLE_then_iff_or, compareOn, times, compareOn,
    Int.compare_eq_lt, Int.compare_eq_eq, Nat.isLE_compare]

end Row

section Selected
variable {rows : List Row} {order : Row → Row → Ordering} [Std.TransCmp order]

theorem perm_select (rows : List Row) (condition : Row → Bool) (order : Row → Row → Ordering) :
    (select rows condition order).Perm (rows.filter condition) :=
  List.mergeSort_perm _ _

theorem pairwise_select (rows : List Row) (condition : Row → Bool) :
    (select rows condition order).Pairwise fun a b => (order a b).isLE := by
  refine List.pairwise_mergeSort (fun a b c => Std.TransCmp.isLE_trans) (fun a b => ?_) _
  rw [@Std.OrientedCmp.eq_swap _ order _ b a]
  cases order a b <;> rfl

end Selected

instance : Std.TransCmp Row.earliestFirst :=
  inferInstanceAs (Std.TransCmp (compareLex (compareOn _) (compareOn _)))

theorem eq_of_earliestFirst {rows : List Row} (distinct : (rows.map Row.number).Nodup)
    {selected selected' : List Row} (part : ∀ r ∈ selected, r ∈ rows)
    (sorted : selected.Pairwise fun a b => (Row.earliestFirst a b).isLE)
    (sorted' : selected'.Pairwise fun a b => (Row.earliestFirst a b).isLE)
    (perm : selected.Perm selected') : selected = selected' := by
  refine List.Perm.eq_of_pairwise (fun a b ha hb le ge => ?_) sorted sorted' perm
  have same := compareLex_eq_eq.1 (Std.OrientedCmp.isLE_antisymm le ge)
  exact List.inj_on_of_nodup_map distinct (part a ha) (part b (perm.mem_iff.2 hb))
    (Nat.compare_eq_eq.1 same.2)

section Distinct
variable {rows : List Row} (distinct : (rows.map Row.number).Nodup) (condition : Row → Bool)
include distinct

theorem filter_select (inner : Row → Bool) :
    (select rows condition Row.earliestFirst).filter inner =
      select rows (fun r => inner r && condition r) Row.earliestFirst := by
  refine eq_of_earliestFirst distinct (fun r hr => ?_)
    ((pairwise_select rows condition).sublist List.filter_sublist) (pairwise_select rows _) ?_
  · exact (List.mem_filter.1 ((perm_select ..).mem_iff.1 (List.mem_of_mem_filter hr))).1
  · have kept := (perm_select rows condition Row.earliestFirst).filter inner
    rw [List.filter_filter] at kept
    exact kept.trans (perm_select ..).symm

theorem select_latestFirst :
    select rows condition Row.latestFirst = (select rows condition Row.earliestFirst).reverse := by
  have down : Std.TransCmp Row.latestFirst := inferInstanceAs
    (Std.TransCmp fun a b => Row.earliestFirst b a)
  refine List.reverse_eq_iff.1 (eq_of_earliestFirst distinct (fun r hr => ?_) ?_
    (pairwise_select rows condition) ?_)
  · exact (List.mem_filter.1 ((perm_select ..).mem_iff.1 (List.mem_reverse.1 hr))).1
  · exact List.pairwise_reverse.2 (pairwise_select rows condition)
  · exact (List.reverse_perm _).trans ((perm_select ..).trans (perm_select ..).symm)

end Distinct

theorem nodup_numbered (readings : List Reading) :
    ((numbered readings).map Row.number).Nodup := by
  rw [numbered, List.map_map]
  change (readings.zipIdx.map ((· + 1) ∘ Prod.snd)).Nodup
  rw [← List.map_map, List.zipIdx_map_snd]
  exact List.Nodup.map (fun _ _ => Nat.succ.inj) List.nodup_range'

def timed (readings : List Reading) : List Row :=
  select (numbered readings) Row.timed Row.earliestFirst

/-- What the two statements select is a slice of the rows with times. -/
theorem selected_eq_slice (readings : List Reading) (t0 t1 : Tick) :
    anchor (numbered readings) t0 ++ inside (numbered readings) t0 t1 =
      slice Row.time (Cell.units t0.toInt) (Cell.units t1.toInt) (timed readings) := by
  have distinct := nodup_numbered readings
  have before : anchor (numbered readings) t0 =
      ((timed readings).filter (·.time ≤ Cell.units t0.toInt)).getLast?.toList := by
    rw [anchor, select_latestFirst distinct, List.take_one, List.head?_reverse, timed,
      filter_select distinct]
    simp only [Row.meets_isLE]
  have between : inside (numbered readings) t0 t1 = (timed readings).filter fun r =>
      Cell.units t0.toInt < r.time ∧ r.time < Cell.units t1.toInt := by
    rw [inside, timed, filter_select distinct]
    simp only [Row.meets_between]
  rw [before, between, slice]

end Database

end SpanQuery
