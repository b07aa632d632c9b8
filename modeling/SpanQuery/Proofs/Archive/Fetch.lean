import SpanQuery.Proofs.Archive.Agreement
import SpanQuery.Proofs.Subsampling.Selection

namespace SpanQuery

/-! ## Windows -/

namespace Archive
open Sample
variable {samples : List Sample} (ordered : Ordered samples) {t0 t1 : Tick} (lt : t0 < t1)
include ordered lt

theorem inWindow_eq :
    inWindow samples t0 t1 =
      ((upTo t0 samples).getLast?.map fun s => { s with timestamp := t0 }).toList ++
        samples.filter fun s => t0 < s.timestamp ∧ s.timestamp < t1 := by
  rw [inWindow, fromAnchor_eq, List.filter_append, filter_after ordered]
  cases anchored : (upTo t0 samples).getLast? with
  | some anchor =>
      have early := le_of_mem_upTo (List.mem_of_getLast? anchored)
      have kept : anchor.timestamp < t1 := Int64.lt_of_le_of_lt early lt
      have moved : max anchor.timestamp t0 = t0 := if_pos early
      simp [kept, moved]
  | none =>
      -- Without an anchor all samples lie behind `t0`, so the first one stays where it is.
      simp only [Option.map_none, Option.toList_none, List.filter_nil, List.nil_append]
      cases inside : samples.filter fun s => t0 < s.timestamp ∧ s.timestamp < t1 with
      | nil => rfl
      | cons first later =>
          have member : first ∈ samples.filter fun s => t0 < s.timestamp ∧ s.timestamp < t1 :=
            inside ▸ List.mem_cons_self
          have late := (of_decide_eq_true (List.mem_filter.1 member).2).1
          have unmoved : max first.timestamp t0 = first.timestamp := if_neg (Int64.not_le.2 late)
          simp [unmoved]

theorem mem_inWindow {s : Sample} (h : s ∈ inWindow samples t0 t1) :
    t0 ≤ s.timestamp ∧ s.timestamp < t1 := by
  rw [inWindow_eq ordered lt] at h
  rcases List.mem_append.1 h with h | h
  · obtain ⟨anchor, -, rfl⟩ := by simpa using h
    exact ⟨Int64.le_rfl, lt⟩
  · have inside := (List.mem_filter.1 h).2
    simp only [decide_eq_true_eq] at inside
    exact ⟨Int64.le_of_lt inside.1, inside.2⟩

theorem ordered_inWindow : Ordered (inWindow samples t0 t1) := by
  rw [inWindow_eq ordered lt]
  refine List.pairwise_append.2 ⟨?_, ordered.sublist List.filter_sublist, fun anchor ha s hs => ?_⟩
  · cases (upTo t0 samples).getLast? <;> simp
  · obtain ⟨-, -, rfl⟩ := by simpa using ha
    exact Int64.le_of_lt (of_decide_eq_true (List.mem_filter.1 hs).2).1

end Archive

/-! ## Conditions -/

theorem Expr.mapM_ofQuery?_some (text : String) :
    (some text).mapM Expr.ofQuery? = (Expr.ofQuery? text).map some := by
  rw [Option.mapM_some]
  cases Expr.ofQuery? text <;> rfl

/-- Whether a condition has a value at a tick and it is not false. -/
def Expr.holdsAt (m : Memory) (e : Expr) (t : Tick) : Bool :=
  match e.valueAt m t with
  | .ok value => !value.isFalse
  | .error _ => false

theorem Expr.holdsAt_iff {m : Memory} {e : Expr} {t : Tick} :
    e.holdsAt m t ↔ ∃ value, e.valueAt m t = .ok value ∧ value.isFalse = false := by
  rw [holdsAt]
  cases e.valueAt m t <;> simp

theorem Interval.touches_iff {i : Interval} {t0 : Tick} (le : t0 ≤ i.start)
    (proper : i.start < i.stop) (t : Tick) :
    i.touches t ↔
      (i.start ≤ t ∧ t < i.stop) ∨ (t0 < t ∧ i.start ≤ t - 1 ∧ t - 1 < i.stop) := by
  grind [Interval.touches]

section Runs
variable {m : Memory} {e : Expr} {t0 t1 : Tick} {spans runs : List Interval}
  (tiles : Tiles t0 t1 spans)
  (values : ∀ i ∈ spans, ∀ t, i.start ≤ t → t < i.stop → e.valueAt m t = .ok i.value)
  (merged : Merged (spans.filter (!·.value.isFalse)) runs)
include tiles values merged

theorem Expr.spanned_iff_holdsAt {t : Tick} (le : t0 ≤ t) (lt : t < t1) :
    Spanned runs t ↔ e.holdsAt m t := by
  have order := tiles.inOrder.sublist (List.filter_sublist (p := (!·.value.isFalse)))
  rw [merged.spanned_iff order, holdsAt_iff]
  simpa [Spanned, and_assoc, le, lt] using e.exists_span_iff tiles values (·.isFalse = false) t

theorem Expr.touched_iff_holdsAt {t : Tick} (le : t0 ≤ t) (lt : t < t1) :
    runs.any (·.touches t) = (e.holdsAt m t || decide (t0 < t) && e.holdsAt m (t - 1)) := by
  have order := tiles.inOrder.sublist (List.filter_sublist (p := (!·.value.isFalse)))
  have within : ∀ r ∈ runs, t0 ≤ r.start ∧ r.start < r.stop := by
    intro r hr
    obtain ⟨i, hi, start, -⟩ := merged.start_mem hr
    exact ⟨start ▸ (tiles.mem (List.mem_filter.1 hi).1).1, (merged.inOrder order).proper r hr⟩
  have touched : runs.any (·.touches t) ↔ Spanned runs t ∨ (t0 < t ∧ Spanned runs (t - 1)) := by
    rw [List.any_eq_true]
    constructor
    · rintro ⟨r, hr, touches⟩
      obtain ⟨low, proper⟩ := within r hr
      rcases (Interval.touches_iff low proper t).1 touches with inside | ⟨beyond, behind⟩
      · exact .inl ⟨r, hr, inside⟩
      · exact .inr ⟨beyond, r, hr, behind⟩
    · rintro (⟨r, hr, inside⟩ | ⟨beyond, r, hr, behind⟩)
      · obtain ⟨low, proper⟩ := within r hr
        exact ⟨r, hr, (Interval.touches_iff low proper t).2 (.inl inside)⟩
      · obtain ⟨low, proper⟩ := within r hr
        exact ⟨r, hr, (Interval.touches_iff low proper t).2 (.inr ⟨beyond, behind⟩)⟩
  have before : t0 < t → (Spanned runs (t - 1) ↔ e.holdsAt m (t - 1)) := by
    intro beyond
    have lower : t0 ≤ t - 1 ∧ t - 1 < t1 := by grind
    exact spanned_iff_holdsAt tiles values merged lower.1 lower.2
  rw [Bool.eq_iff_iff, touched, spanned_iff_holdsAt tiles values merged le lt]
  simpa using or_congr_right (and_congr_right before)

end Runs

namespace Archive

section Known
variable {m : Memory} (prefetch : Bool) {name : String} {series : List Sample}
  (known : m.samples? name = some series) {t0 t1 : Tick}
include known

theorem fetch_none_memory :
    ((⟨Memory.source, prefetch⟩ : Archive Memory).fetch ⟨name, t0, t1⟩ none m).1 =
      .ok (inWindow (Sample.window series t0 t1) t0 t1) := by
  have answer : m.answer ⟨name, t0, t1⟩ = .ok (Sample.window series t0 t1) :=
    Memory.answer_of_known known
  rw [fetch_eq _ _ rfl]
  change (select _ _ none (m.answer ⟨name, t0, t1⟩) m).1 = _
  rw [answer]
  rfl

theorem fetch_some_memory {text : String} {e : Expr} (parsed : Expr.ofQuery? text = .ok e) :
    ((⟨Memory.source, prefetch⟩ : Archive Memory).fetch ⟨name, t0, t1⟩ (some text) m).1 =
      subsampleItems (compressItems none ((e.course t0 t1).items Memory.source m).1)
        (inWindow (Sample.window series t0 t1) t0 t1) := by
  have answer : m.answer ⟨name, t0, t1⟩ = .ok (Sample.window series t0 t1) :=
    Memory.answer_of_known known
  have condition := Expr.mapM_ofQuery?_some text
  rw [parsed] at condition
  rw [fetch_eq _ _ condition]
  change (select _ _ (some e) (m.answer ⟨name, t0, t1⟩) m).1 = _
  rw [answer]
  let found := (⟨Memory.source, prefetch⟩ : Archive Memory).findRanges e t0 t1 m
  change (found.1.subsample Memory.source _ found.2).1 = _
  have run : found = ((e.course t0 t1).compress, m) := findRanges_memory prefetch e t0 t1 m
  rw [run, Course.subsample_eq, Course.compress, items_compressFrom]

end Known

/-- With a condition, a fetch keeps of all samples those at whose tick the condition is not false,
or was not false one tick before. -/
theorem fetch_some_filter (m : Memory) (prefetch : Bool) {name : String} {series : List Sample}
    (known : m.samples? name = some series) {t0 t1 : Tick} (lt : t0 < t1) {text : String} {e : Expr}
    (parsed : Expr.ofQuery? text = .ok e) {spans : List Interval}
    (faultless : ((e.course t0 t1).items Memory.source m).1 = spans.map .ok) :
    ∃ all : List Sample,
      ((⟨Memory.source, prefetch⟩ : Archive Memory).fetch ⟨name, t0, t1⟩ none m).1 = .ok all ∧
      ((⟨Memory.source, prefetch⟩ : Archive Memory).fetch ⟨name, t0, t1⟩ (some text) m).1 =
        .ok (all.filter fun s => e.holdsAt m s.timestamp ||
          decide (t0 < s.timestamp) && e.holdsAt m (s.timestamp - 1)) := by
  have ordered := Sample.ordered_window (m.ordered_samples? known) t0 t1
  obtain ⟨tiles, values⟩ := (e.keeps_course_pointwise m lt).tiles_of_items
    (Course.Contract.pointwise_served m _) rfl faultless
  obtain ⟨runs, run, merged⟩ := merged_compressItems none spans
  obtain ⟨proper, inOrder⟩ := merged.inOrder (tiles.inOrder.sublist List.filter_sublist)
  refine ⟨_, fetch_none_memory prefetch known, ?_⟩
  rw [fetch_some_memory prefetch known parsed, faultless, run,
    subsampleItems_eq_filter (ordered_inWindow ordered lt)
      (fun r hr => Int64.le_of_lt (proper r hr)) inOrder]
  refine congrArg Except.ok (List.filter_congr fun s hs => ?_)
  obtain ⟨le, before⟩ := mem_inWindow ordered lt hs
  exact Expr.touched_iff_holdsAt tiles values merged le before

theorem fetch_some_filter_ends :
    let m := (((((Memory.empty.push "A" ⟨-2, 3⟩).push "A" ⟨3, 0⟩).push "A" ⟨3, 1⟩).push "A"
      ⟨4, 0⟩).push "A" ⟨7, 5⟩).push "B" ⟨0, 2⟩
    let e := Expr.binary .gt (.variable "A") (.variable "B")
    let series : List Sample := [⟨-2, 3⟩, ⟨3, 0⟩, ⟨3, 1⟩, ⟨4, 0⟩, ⟨7, 5⟩]
    let spans : List Interval :=
      [⟨0, 3, .bool true⟩, ⟨3, 4, .bool false⟩, ⟨4, 7, .bool false⟩, ⟨7, 10, .bool true⟩]
    (m.samples? "A" = some series ∧ (0 : Tick) < 10 ∧ Expr.ofQuery? "A > B" = .ok e ∧
      ((e.course 0 10).items Memory.source m).1 = spans.map .ok) ∧
    let all : List Sample := [⟨0, 3⟩, ⟨3, 0⟩, ⟨3, 1⟩, ⟨4, 0⟩, ⟨7, 5⟩]
    ((⟨Memory.source, true⟩ : Archive Memory).fetch ⟨"A", 0, 10⟩ none m).1 = .ok all ∧
      ((⟨Memory.source, true⟩ : Archive Memory).fetch ⟨"A", 0, 10⟩ (some "A > B") m).1 =
        .ok (all.filter fun s => e.holdsAt m s.timestamp ||
          decide (0 < s.timestamp) && e.holdsAt m (s.timestamp - 1)) ∧
      (all.filter fun s => e.holdsAt m s.timestamp ||
          decide (0 < s.timestamp) && e.holdsAt m (s.timestamp - 1)) =
        [⟨0, 3⟩, ⟨3, 0⟩, ⟨3, 1⟩, ⟨7, 5⟩] := by
  intro m e series spans
  have known : m.samples? "A" = some series := rfl
  have lt : (0 : Tick) < 10 := by decide
  have tokens : Lexer.tokens "A > B".toList = .ok
      [⟨.name "A", ['A'], 0⟩, ⟨.symbol .gt, ['>'], 2⟩, ⟨.name "B", ['B'], 4⟩] := by
    iterate 3 refine Lexer.tokensFrom_of_token rfl rfl rfl rfl ?_
    exact Lexer.tokensFrom_of_blank rfl
  have parsed : Expr.ofQuery? "A > B" = .ok e := by
    rw [Expr.ofQuery?, Expr.ofText?, Expr.ofChars?, tokens]
    rfl
  have faultless : ((e.course 0 10).items Memory.source m).1 = spans.map .ok := rfl
  refine ⟨⟨known, lt, parsed, faultless⟩, ?_⟩
  intro all
  obtain ⟨found, whole, part⟩ := fetch_some_filter m true known lt parsed faultless
  have fetched : ((⟨Memory.source, true⟩ : Archive Memory).fetch ⟨"A", 0, 10⟩ none m).1 =
      .ok all := rfl
  obtain rfl : found = all := Except.ok.inj (whole.symm.trans fetched)
  exact ⟨whole, part, rfl⟩

end Archive

end SpanQuery
