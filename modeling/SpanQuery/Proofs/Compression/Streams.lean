import Mathlib
import SpanQuery.Proofs.Compression.Merged

namespace SpanQuery

open Course

/-! ## Steps -/

namespace Compression

/-- What a compression is still going to give out. -/
def course (c : Compression ρ α) : Course ρ α :=
  match c.failed with
  | some e => .fail e fun _ => .done
  | none => if c.ended then .done else c.rest.compressFrom c.pending

def pulls [Monad m] (asking : ρ → m α) : Nat → Compression ρ α → m (List (Option Item))
  | 0, _ => pure []
  | n + 1, c => do
      let (item, c) ← c.next asking
      return item :: (← pulls asking n c)

section Steps
variable (asking : ρ → StateM σ α)

theorem pull_compressFrom (pending : Option Interval) (c : Course ρ α) (s : σ) :
    (c.compressFrom pending).pull asking s =
      let ((item, later), s) := draw asking pending c s
      ((item, later.course), s) := by
  induction c generalizing pending s with
  | done => cases pending <;> rfl
  | fail e => cases pending <;> rfl
  | ask q answer ih => exact ih _ pending _
  | emit i next ih =>
      cases pending with
      | none =>
          rw [compressFrom, draw]
          split
          · exact ih () none s
          · exact ih () (some i) s
      | some p =>
          rw [compressFrom, draw]
          split
          · exact ih () (some p) s
          · cases p.join? i with
            | some joined => exact ih () (some joined) s
            | none => rfl

theorem pull_course (c : Compression ρ α) (s : σ) :
    c.course.pull asking s =
      let ((item, later), s) := c.next asking s
      ((item, later.course), s) := by
  obtain ⟨rest, pending, failed, ended⟩ := c
  cases failed with
  | some e => rfl
  | none =>
      cases ended with
      | true => rfl
      | false => exact pull_compressFrom asking pending rest s

theorem pulls_course (n : Nat) (c : Compression ρ α) (s : σ) :
    pulls asking n c s = Course.pulls asking n c.course s := by
  induction n generalizing c s with
  | zero => rfl
  | succ n ih =>
      have step : Course.pulls asking (n + 1) c.course s =
          let ((item, later), s) := c.course.pull asking s
          (item :: (Course.pulls asking n later s).1, (Course.pulls asking n later s).2) := rfl
      rw [step, pull_course]
      exact congrArg (fun r => ((c.next asking s).1.1 :: r.1, r.2)) (ih _ _)

theorem pulls_start (n : Nat) (c : Course ρ α) (s : σ) :
    pulls asking n (.start c) s = Course.pulls asking n c.compress s :=
  pulls_course asking n (.start c) s

end Steps

end Compression

/-! ## Drawn items -/

theorem Course.items_drawn (asking : Unit → StateM σ Unit) (items : List Item) (s : σ) :
    ((drawn items).items asking s).1 = items := by
  induction items generalizing s with
  | nil => rfl
  | cons item rest ih =>
      cases item with
      | error e => exact congrArg (.error e :: ·) (ih _)
      | ok i => exact congrArg (.ok i :: ·) (ih _)

theorem Compression.pulls_drawn (asking : Unit → StateM σ Unit) (n : Nat) (items : List Item)
    (s : σ) :
    (pulls asking n (.start (drawn items)) s).1 =
      (List.range n).map ((compressItems none items)[·]?) := by
  rw [pulls_start, pulls_eq, Course.compress, items_compressFrom, items_drawn]

theorem compressItems_error (pending : Option Interval) (spans : List Interval) (e : QueryError)
    (rest : List Item) :
    compressItems pending (spans.map .ok ++ .error e :: rest) =
      compressItems pending (spans.map .ok) ++ [.error e] := by
  induction spans generalizing pending with
  | nil => rfl
  | cons i spans ih =>
      rw [List.map_cons, List.cons_append]
      cases held : i.value.isFalse with
      | true => rw [compressItems_of_isFalse held, compressItems_of_isFalse held, ih]
      | false =>
          cases pending with
          | none => rw [compressItems_none held, compressItems_none held, ih]
          | some p =>
              cases join : p.join? i with
              | none =>
                  rw [compressItems_apart held join, compressItems_apart held join, ih,
                    List.cons_append]
              | some joined =>
                  rw [compressItems_joined held join, compressItems_joined held join, ih]

/-! ## Values -/

namespace Value

def isNaN : Value → Bool
  | number x => x.isNaN
  | bool _ => false

theorem same_self {v : Value} (h : v.isNaN = false) : v.same v := by
  cases v with
  | number x => exact Float.beq_self_iff.2 (by simpa [isNaN] using h)
  | bool b => exact beq_self_eq_true b

theorem same_self_of_same {v w : Value} (h : v.same w) : v.same v := by
  rcases v with x | b
  · rcases w with y | c
    · exact BEq.trans h (BEq.symm h)
    · cases h
  · exact beq_self_eq_true b

theorem isFalse_eq_false_iff {v : Value} : v.isFalse = false ↔ v ≠ .bool false := by
  rcases v with x | (_ | _) <;> simp [isFalse]

end Value

theorem mem_holding {given : List Interval} {i : Interval} :
    i ∈ given.filter (!·.value.isFalse) ↔ i ∈ given ∧ i.value ≠ .bool false := by
  rw [List.mem_filter, Bool.not_eq_true', Value.isFalse_eq_false_iff]

theorem spanned_iff_contains {spans : List Interval} {t : Tick} :
    Spanned spans t ↔ ∃ i ∈ spans, i.contains t := by
  simp only [Spanned, Interval.contains, Bool.and_eq_true, decide_eq_true_eq]

/-! ## Runs -/

/-- The runs that intervals come to: none is false, no two could be one, and each goes from the
start of an interval, with its value, to the end of an interval. -/
structure CompressedTo (given runs : List Interval) : Prop where
  holds : ∀ r ∈ runs, r.value ≠ .bool false
  apart : runs.IsChain fun r next => ¬ (r.stop = next.start ∧ r.value.same next.value)
  first : ∀ r ∈ runs, ∃ i ∈ given, i.value ≠ .bool false ∧ r.start = i.start ∧ r.value = i.value
  last : ∀ r ∈ runs, ∃ i ∈ given, i.value ≠ .bool false ∧ r.stop = i.stop

/-- At every tick the runs hold what the intervals do, but for false. Where a value is no number,
which is not equal to itself, the run is the interval. -/
structure SameValues (given runs : List Interval) : Prop where
  ticks : ∀ t, (∃ r ∈ runs, r.contains t) ↔ ∃ i ∈ given, i.value ≠ .bool false ∧ i.contains t
  values : ∀ t, ∀ r ∈ runs, ∀ i ∈ given, i.value ≠ .bool false → r.contains t → i.contains t →
    r.value.same i.value ∨ i.value.isNaN ∧ r = i

theorem Merged.exists_run {kept runs : List Interval} (h : Merged kept runs) (order : InOrder kept)
    {i : Interval} (hi : i ∈ kept) :
    ∃ r ∈ runs, r.start ≤ i.start ∧ i.stop ≤ r.stop ∧ (r = i ∨ r.value.same i.value) := by
  induction h with
  | nil => cases hi
  | single p =>
      obtain rfl := List.mem_singleton.1 hi
      exact ⟨i, hi, Int64.le_rfl, Int64.le_rfl, .inl rfl⟩
  | @joined p j joined rest runs join more ih =>
      have equal := Interval.same_of_join? join
      obtain ⟨touch, rfl⟩ := Interval.of_join? join
      have later := order.joined touch
      have first := order.proper p List.mem_cons_self
      have second := order.proper j (List.mem_cons_of_mem _ List.mem_cons_self)
      obtain ⟨r, hr, start, value, reach⟩ := more.exists_head rfl
      have run : r ∈ runs := List.mem_of_mem_head? hr
      have further : j.stop ≤ r.stop := reach later
      rcases List.mem_cons.1 hi with rfl | hi
      · refine ⟨r, run, Int64.le_of_eq start, ?_, .inr ?_⟩
        · exact Int64.le_trans (Int64.le_of_lt (touch ▸ second)) further
        · rw [value]
          exact Value.same_self_of_same equal
      · rcases List.mem_cons.1 hi with rfl | hi
        · refine ⟨r, run, ?_, further, .inr (value ▸ equal)⟩
          rw [start, ← touch]
          exact Int64.le_of_lt first
        · exact ih later (List.mem_cons_of_mem _ hi)
  | apart _ _ ih =>
      rcases List.mem_cons.1 hi with rfl | hi
      · exact ⟨i, List.mem_cons_self, Int64.le_rfl, Int64.le_rfl, .inl rfl⟩
      · obtain ⟨r, hr, inside⟩ := ih (order.sublist (List.sublist_cons_self _ _)) hi
        exact ⟨r, List.mem_cons_of_mem _ hr, inside⟩

section Merged
variable {given runs : List Interval} (merged : Merged (given.filter (!·.value.isFalse)) runs)
include merged

theorem Merged.compressedTo : CompressedTo given runs where
  holds r hr := by
    obtain ⟨i, hi, -, value⟩ := merged.start_mem hr
    rw [value]
    exact (mem_holding.1 hi).2
  apart := merged.isChain.imp fun _ _ => Interval.join?_eq_none_iff.1
  first r hr := by
    obtain ⟨i, hi, start, value⟩ := merged.start_mem hr
    obtain ⟨mem, holds⟩ := mem_holding.1 hi
    exact ⟨i, mem, holds, start, value⟩
  last r hr := by
    obtain ⟨i, hi, stop⟩ := merged.stop_mem hr
    obtain ⟨mem, holds⟩ := mem_holding.1 hi
    exact ⟨i, mem, holds, stop⟩

theorem Merged.sameValues (order : InOrder given) : SameValues given runs where
  ticks t := by
    have kept := merged.spanned_iff (order.sublist List.filter_sublist) t
    rw [spanned_iff_contains, spanned_iff_contains] at kept
    simpa only [mem_holding, and_assoc] using kept
  values t r hr i hi holds inRun inside := by
    have kept := order.sublist (List.filter_sublist (p := (!·.value.isFalse)))
    obtain ⟨r', hr', start, stop, equal⟩ := merged.exists_run kept (mem_holding.2 ⟨hi, holds⟩)
    have inRun' : r'.contains t := by
      simp only [Interval.contains, Bool.and_eq_true, decide_eq_true_eq] at inside ⊢
      exact ⟨Int64.le_trans start inside.1, Int64.lt_of_lt_of_le inside.2 stop⟩
    obtain rfl := (merged.inOrder kept).eq_of_contains hr hr' inRun inRun'
    rcases equal with rfl | equal
    · cases noNumber : r.value.isNaN with
      | true => exact .inr ⟨rfl, rfl⟩
      | false => exact .inl (Value.same_self noNumber)
    · exact .inl equal

end Merged

/-- The steps of a compression give out the runs of the intervals before the first error, then the
error, then nothing, whatever the stream has behind it. -/
theorem pulls_compress (asking : Unit → StateM σ Unit) (s : σ) (given : List Interval) :
    ∃ runs : List Interval,
      (∀ n, (Compression.pulls asking n (.start (drawn (given.map .ok))) s).1 =
        (List.range n).map ((runs.map .ok : List Item)[·]?)) ∧
      (∀ e rest n,
        (Compression.pulls asking n (.start (drawn (given.map .ok ++ .error e :: rest))) s).1 =
          (List.range n).map ((runs.map .ok ++ [.error e] : List Item)[·]?)) ∧
      CompressedTo given runs ∧
      ((∀ i ∈ given, i.start < i.stop) → (given.IsChain fun i next => i.stop ≤ next.start) →
        SameValues given runs) := by
  obtain ⟨runs, run, merged⟩ := merged_compressItems none given
  rw [Option.toList_none, List.nil_append] at merged
  refine ⟨runs, fun n => ?_, fun e rest n => ?_, merged.compressedTo, fun proper chain => ?_⟩
  · rw [Compression.pulls_drawn, run]
  · rw [Compression.pulls_drawn, compressItems_error, run]
  · exact merged.sameValues (inOrder_of_isChain proper chain)

theorem pulls_compress_zeros :
    let asking : Unit → StateM Nat Unit := fun _ => modify (· + 1)
    let given : List Interval :=
      [⟨0, 2, .number 0.0⟩, ⟨2, 5, .number (-0.0)⟩, ⟨5, 6, .bool false⟩,
        ⟨6, 7, .number (0.0 / 0.0)⟩, ⟨7, 9, .number (0.0 / 0.0)⟩, ⟨9, 10, .bool true⟩]
    ((∀ i ∈ given, i.start < i.stop) ∧ given.IsChain fun i next => i.stop ≤ next.start) ∧
    ∃ runs : List Interval,
      (∀ n, (Compression.pulls asking n (.start (drawn (given.map .ok))) 0).1 =
        (List.range n).map ((runs.map .ok : List Item)[·]?)) ∧
      (∀ e rest n,
        (Compression.pulls asking n (.start (drawn (given.map .ok ++ .error e :: rest))) 0).1 =
          (List.range n).map ((runs.map .ok ++ [.error e] : List Item)[·]?)) ∧
      SameValues given runs := by
  intro asking given
  have proper : ∀ i ∈ given, i.start < i.stop := by
    simp only [given, List.forall_mem_cons]
    decide
  have chain : given.IsChain fun i next => i.stop ≤ next.start := by
    simp only [given, List.isChain_cons_cons, List.isChain_singleton]
    decide
  obtain ⟨runs, run, failed, -, same⟩ := pulls_compress asking 0 given
  exact ⟨⟨proper, chain⟩, runs, run, failed, same proper chain⟩

/-! ## Compressing once more -/

/-- No false interval is left, and none could be joined with the next one. -/
structure Settled (runs : List Interval) : Prop where
  holds : ∀ r ∈ runs, r.value.isFalse = false
  apart : runs.IsChain fun r next => r.join? next = none

theorem Merged.settled {given runs : List Interval}
    (h : Merged (given.filter (!·.value.isFalse)) runs) : Settled runs where
  holds r hr := by
    obtain ⟨i, hi, -, value⟩ := h.start_mem hr
    rw [value]
    simpa using (List.mem_filter.1 hi).2
  apart := h.isChain

theorem compressItems_pending {p : Interval} {runs : List Interval} (h : Settled (p :: runs)) :
    compressItems (some p) (runs.map .ok) = (p :: runs).map .ok := by
  induction runs generalizing p with
  | nil => rfl
  | cons next rest ih =>
      obtain ⟨-, behind⟩ := List.forall_mem_cons.1 h.holds
      obtain ⟨join, chain⟩ := List.isChain_cons_cons.1 h.apart
      have held : next.value.isFalse = false := behind next List.mem_cons_self
      rw [List.map_cons, compressItems_apart held join, ih ⟨behind, chain⟩]
      rfl

theorem compressItems_settled {runs : List Interval} (h : Settled runs) :
    compressItems none (runs.map .ok) = runs.map .ok := by
  cases runs with
  | nil => rfl
  | cons p rest =>
      have held : p.value.isFalse = false := h.holds p List.mem_cons_self
      rw [List.map_cons, compressItems_none held, compressItems_pending h, List.map_cons]

theorem exists_spans (items : List Item) :
    ∃ spans : List Interval, items = spans.map .ok ∨
      ∃ e rest, items = spans.map .ok ++ .error e :: rest := by
  induction items with
  | nil => exact ⟨[], .inl rfl⟩
  | cons item items ih =>
      cases item with
      | error e => exact ⟨[], .inr ⟨e, items, rfl⟩⟩
      | ok i =>
          obtain ⟨spans, rfl | ⟨e, rest, rfl⟩⟩ := ih
          · exact ⟨i :: spans, .inl rfl⟩
          · exact ⟨i :: spans, .inr ⟨e, rest, rfl⟩⟩

theorem compressItems_compressItems (items : List Item) :
    compressItems none (compressItems none items) = compressItems none items := by
  obtain ⟨spans, given⟩ := exists_spans items
  obtain ⟨runs, run, merged⟩ := merged_compressItems none spans
  rw [Option.toList_none, List.nil_append] at merged
  have again := compressItems_settled merged.settled
  rcases given with rfl | ⟨e, rest, rfl⟩
  · rw [run, again]
  · rw [compressItems_error, run, compressItems_error, again]

/-- The intervals of a stream may overlap, be empty or come in any order, and values that are no
numbers or differ in the sign of a zero are the same values after each compression. The second one
holds an item back until it knows the next one, so it may ask earlier; it asks nothing else. -/
theorem pulls_compress_compress (asking : ρ → StateM σ α) (c : Course ρ α) (s : σ) :
    c.compress.compress.items asking s = c.compress.items asking s ∧
      (∀ n, (pulls asking n c.compress.compress s).1 = (pulls asking n c.compress s).1) ∧
      ∀ n, (Compression.pulls asking n (.start c.compress) s).1 =
        (Compression.pulls asking n (.start c) s).1 := by
  have same : c.compress.compress.items asking s = c.compress.items asking s := by
    simp only [Course.compress, items_compressFrom, compressItems_compressItems,
      upToError_compressFrom]
  have pulled (n : Nat) :
      (pulls asking n c.compress.compress s).1 = (pulls asking n c.compress s).1 := by
    rw [pulls_eq, pulls_eq, same]
  refine ⟨same, pulled, fun n => ?_⟩
  rw [Compression.pulls_start, Compression.pulls_start, pulled]

end SpanQuery
