import SpanQuery.Proofs.Compression.Merged
import SpanQuery.Proofs.Subsampling.Selection

namespace SpanQuery

open Course

def tally : Unit → StateM Nat Unit := fun _ n => ((), n + 1)

def pulledItems : List Item → List Sample → Nat
  | _, [] => 0
  | [], _ => 0
  | .error _ :: _, _ => 1
  | .ok i :: rest, series => pulledItems rest (i.cut series).2 + 1

@[simp] theorem pulledItems_nil (items : List Item) : pulledItems items [] = 0 := by
  cases items <;> rfl

theorem pulledItems_cons (i : Interval) (rest : List Item) {series : List Sample}
    (some : series ≠ []) :
    pulledItems (.ok i :: rest) series = pulledItems rest (i.cut series).2 + 1 := by
  cases series with
  | nil => exact absurd rfl some
  | cons s later => rfl

theorem Course.subsample_drawn (items : List Item) (series : List Sample) (n : Nat) :
    (drawn items).subsample tally series n =
      (subsampleItems items series, n + pulledItems items series) := by
  induction items generalizing series n with
  | nil => cases series <;> rfl
  | cons item rest ih =>
      cases series with
      | nil =>
          rw [subsampleItems_nil, pulledItems_nil]
          cases item <;> rfl
      | cons s later =>
          cases item with
          | error e => rfl
          | ok i =>
              have inner := ih (i.cut (s :: later)).2 (n + 1)
              have step : (drawn (.ok i :: rest)).subsample tally (s :: later) n =
                  let (result, pulled) :=
                    (drawn rest).subsample tally (i.cut (s :: later)).2 (n + 1)
                  (result.map ((i.cut (s :: later)).1 ++ ·), pulled) := rfl
              rw [step, inner, subsampleItems_cons, pulledItems_cons _ _ (by simp),
                Nat.add_right_comm n, Nat.add_assoc]

/-! ## Errors -/

theorem subsampleItems_eq_error_iff {items : List Item} {series : List Sample} {e : QueryError} :
    subsampleItems items series = .error e ↔
      ∃ k < pulledItems items series, items[k]? = some (.error e) := by
  induction items generalizing series with
  | nil => cases series <;> simp [subsampleItems]
  | cons item rest ih =>
      cases series with
      | nil => simp
      | cons s later =>
          cases item with
          | error fault => simp [subsampleItems, pulledItems]
          | ok i =>
              rw [subsampleItems_cons_eq_error_iff, ih, pulledItems_cons _ _ (by simp)]
              constructor
              · rintro ⟨k, lt, here⟩
                exact ⟨k + 1, Nat.succ_lt_succ lt, here⟩
              · rintro ⟨_ | k, lt, here⟩
                · simp at here
                · exact ⟨k, Nat.lt_of_succ_lt_succ lt, here⟩

theorem subsampleItems_of_append {spans : List Interval} {ending : List Item}
    (broken : ∀ i, ending.head? ≠ some (.ok i)) {series kept : List Sample}
    (run : subsampleItems (spans.map .ok ++ ending) series = .ok kept) :
    subsampleItems (spans.map .ok) series = .ok kept := by
  induction spans generalizing series kept with
  | nil =>
      cases series with
      | nil => simpa using run
      | cons s later =>
          rcases ending with _ | ⟨_ | i, rest⟩
          · exact run
          · cases run
          · exact absurd rfl (broken i)
  | cons i rest ih =>
      obtain ⟨more, inner, whole⟩ := subsampleItems_cons_eq_ok_iff.1 run
      exact subsampleItems_cons_eq_ok_iff.2 ⟨more, ih inner, whole⟩

/-! ## Reach -/

theorem Sample.Ordered.getLast?_after {series : List Sample} (ordered : Ordered series) (t : Tick) :
    (Sample.after t series).getLast? = series.getLast?.filter (t < ·.timestamp) := by
  have whole := congrArg List.getLast? (upTo_append_after t series)
  rw [List.getLast?_append] at whole
  rw [← whole]
  cases late : (Sample.after t series).getLast? with
  | some last =>
      have lt := lt_of_mem_after ordered (List.mem_of_getLast? late)
      simp [Option.filter, lt]
  | none =>
      cases early : (upTo t series).getLast? with
      | none => rfl
      | some last =>
          have le := le_of_mem_upTo (List.mem_of_getLast? early)
          simp [Option.filter, Int64.not_lt.2 le]

/-- Whether the item behind the first `k` intervals is of interest: there must be samples, and the
last one must lie behind the interval before the item. -/
def Wanted (spans : List Interval) (series : List Sample) : Nat → Prop
  | 0 => series ≠ []
  | k + 1 => ∃ i ∈ spans[k]?, ∃ last ∈ series.getLast?, i.stop < last.timestamp

section Ordered
variable {series : List Sample} (ordered : Sample.Ordered series) {spans : List Interval}
include ordered

theorem wanted_cons {i : Interval} (behind : ∀ j ∈ spans, i.stop ≤ j.stop) (k : Nat) :
    Wanted (i :: spans) series (k + 1) ↔ Wanted spans (Sample.after i.stop series) k := by
  cases k with
  | zero =>
      rw [Wanted, Wanted, ← List.getLast?_isSome, ordered.getLast?_after]
      cases series.getLast? <;> simp [Option.filter]
  | succ k =>
      rw [Wanted, Wanted, ordered.getLast?_after, List.getElem?_cons_succ]
      refine exists_congr fun j => and_congr_right fun hj => ?_
      have le := behind j (List.mem_of_getElem? hj)
      simp only [Option.mem_def, Option.filter_eq_some_iff, decide_eq_true_eq]
      refine exists_congr fun last =>
        ⟨fun ⟨here, lt⟩ => ⟨⟨here, ?_⟩, lt⟩, fun ⟨here, lt⟩ => ⟨here.1, lt⟩⟩
      exact Int64.lt_of_le_of_lt le lt

theorem lt_pulledItems_iff (proper : ∀ i ∈ spans, i.start ≤ i.stop)
    (inOrder : spans.Pairwise fun i later => i.stop ≤ later.start) {ending : List Item}
    (broken : ∀ i, ending.head? ≠ some (.ok i)) (k : Nat) :
    k < pulledItems (spans.map .ok ++ ending) series ↔
      k < (spans.map .ok ++ ending : List Item).length ∧ Wanted spans series k := by
  induction spans generalizing series k with
  | nil =>
      cases series with
      | nil => cases k <;> simp [Wanted]
      | cons s later =>
          rcases ending with _ | ⟨_ | i, rest⟩
          · simp [pulledItems]
          · cases k <;> simp [pulledItems, Wanted]
          · exact absurd rfl (broken i)
  | cons i rest ih =>
      obtain ⟨first, proper⟩ := List.forall_mem_cons.1 proper
      obtain ⟨behind, inOrder⟩ := List.pairwise_cons.1 inOrder
      by_cases some : series = []
      · subst some
        cases k <;> simp [Wanted]
      · rw [List.map_cons, List.cons_append, pulledItems_cons _ _ some,
          Interval.cut_eq ordered first]
        cases k with
        | zero => simpa [Wanted] using some
        | succ k =>
            rw [wanted_cons ordered fun j hj => Int64.le_trans (behind j hj) (proper j hj),
              List.length_cons, Nat.add_lt_add_iff_right, Nat.add_lt_add_iff_right]
            exact ih (ordered.after i.stop) proper inOrder k

end Ordered

/-- A series is gone through only as far as the samples reach: an item is taken if there are samples
and, behind another one, if the last sample lies behind the end of that one. If an error is taken it
is the result, else the samples in the intervals before the error are, ends included. -/
theorem subsample_pulls {series : List Sample} (ordered : Sample.Ordered series)
    {spans : List Interval} (proper : ∀ i ∈ spans, i.start ≤ i.stop)
    (chain : spans.IsChain fun i next => i.stop ≤ next.start) {ending : List Item}
    (broken : ∀ i, ending.head? ≠ some (.ok i)) :
    let items := spans.map .ok ++ ending
    ∃ (result : Except QueryError (List Sample)) (pulled : Nat),
      (drawn items).subsample tally series 0 = (result, pulled) ∧
      (∀ k, k < pulled ↔ k < items.length ∧ Wanted spans series k) ∧
      (∀ e, result = .error e ↔ ∃ k < pulled, items[k]? = some (.error e)) ∧
      ((∀ k < pulled, ∀ e, items[k]? ≠ some (.error e)) →
        result = .ok (series.filter fun s => spans.any (·.touches s.timestamp))) := by
  intro items
  have inOrder := pairwise_of_isChain proper chain
  refine ⟨subsampleItems items series, pulledItems items series, ?_,
    lt_pulledItems_iff ordered proper inOrder broken, fun _ => subsampleItems_eq_error_iff,
    fun faultless => ?_⟩
  · rw [subsample_drawn, Nat.zero_add]
  · cases run : subsampleItems items series with
    | error e =>
        obtain ⟨k, lt, here⟩ := subsampleItems_eq_error_iff.1 run
        exact absurd here (faultless k lt e)
    | ok kept =>
        have whole := subsampleItems_of_append broken run
        rw [subsampleItems_eq_filter ordered proper inOrder] at whole
        exact whole.symm

theorem subsample_pulls_error :
    let series : List Sample := [⟨0, 1⟩, ⟨5, 2⟩, ⟨5, 3⟩, ⟨9, 4⟩]
    let spans : List Interval := [⟨0, 5, .bool true⟩, ⟨5, 7, .bool true⟩]
    let ending : List Item :=
      [.error (.evaluation (.divisionByZero 7 12)), .ok ⟨12, 20, .bool true⟩]
    let items := spans.map .ok ++ ending
    (Sample.Ordered series ∧ (∀ i ∈ spans, i.start ≤ i.stop) ∧
      (spans.IsChain fun i next => i.stop ≤ next.start) ∧ ∀ i, ending.head? ≠ some (.ok i)) ∧
    ∃ (result : Except QueryError (List Sample)) (pulled : Nat),
      (drawn items).subsample tally series 0 = (result, pulled) ∧
      (∀ k, k < pulled ↔ k < items.length ∧ Wanted spans series k) ∧
      (∀ e, result = .error e ↔ ∃ k < pulled, items[k]? = some (.error e)) ∧
      ((∀ k < pulled, ∀ e, items[k]? ≠ some (.error e)) →
        result = .ok (series.filter fun s => spans.any (·.touches s.timestamp))) := by
  intro series spans ending items
  have ordered : Sample.Ordered series := by
    simp only [Sample.Ordered, series, List.pairwise_cons, List.forall_mem_cons]
    simp +decide
  have proper : ∀ i ∈ spans, i.start ≤ i.stop := by
    simp only [spans, List.forall_mem_cons]
    simp +decide
  have chain : spans.IsChain fun i next => i.stop ≤ next.start := by
    simp +decide [spans]
  have broken : ∀ i, ending.head? ≠ some (.ok i) := by simp [ending]
  exact ⟨⟨ordered, proper, chain, broken⟩, subsample_pulls ordered proper chain broken⟩

end SpanQuery
