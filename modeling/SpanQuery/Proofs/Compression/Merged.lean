import Mathlib.Data.List.Chain
import SpanQuery.Compression
import SpanQuery.Proofs.Course.Contract

/-!
# Merged intervals

Compression works on the items of a course alone. Of items that are intervals it leaves out the false
ones and merges what is left. What merging does is written as a relation between the kept intervals
and the resulting runs, with one constructor for each thing that can happen to the first two
intervals.
-/

namespace SpanQuery

open Course

/-! ## Compression of items -/

/-- What compression makes of items behind a pending interval. -/
def compressItems (pending : Option Interval) : List Item → List Item
  | [] => pending.toList.map .ok
  | .error e :: _ => pending.toList.map .ok ++ [.error e]
  | .ok i :: rest =>
      if i.value.isFalse then compressItems pending rest
      else
        match pending with
        | none => compressItems (some i) rest
        | some p =>
            match p.join? i with
            | some joined => compressItems (some joined) rest
            | none => .ok p :: compressItems (some i) rest

theorem compressItems_of_isFalse {i : Interval} (h : i.value.isFalse = true)
    (pending : Option Interval) (rest : List Item) :
    compressItems pending (.ok i :: rest) = compressItems pending rest := by
  cases pending <;> simp [compressItems, h]

theorem compressItems_none {i : Interval} (h : i.value.isFalse = false) (rest : List Item) :
    compressItems none (.ok i :: rest) = compressItems (some i) rest := by
  simp [compressItems, h]

theorem compressItems_joined {p i joined : Interval} (h : i.value.isFalse = false)
    (join : p.join? i = some joined) (rest : List Item) :
    compressItems (some p) (.ok i :: rest) = compressItems (some joined) rest := by
  simp [compressItems, h, join]

theorem compressItems_apart {p i : Interval} (h : i.value.isFalse = false)
    (join : p.join? i = none) (rest : List Item) :
    compressItems (some p) (.ok i :: rest) = .ok p :: compressItems (some i) rest := by
  simp [compressItems, h, join]

/-- The course up to its first error, with nothing behind it. -/
def Course.upToError : Course ρ α → Course ρ α
  | done => done
  | fail e _ => fail e fun _ => done
  | emit i next => emit i fun u => (next u).upToError
  | ask q answer => ask q fun a => (answer a).upToError

theorem items_compressFrom (asking : ρ → StateM σ α) (c : Course ρ α) (pending : Option Interval)
    (s : σ) :
    (c.compressFrom pending).items asking s =
      (compressItems pending (c.items asking s).1, (c.upToError.items asking s).2) := by
  induction c generalizing pending s with
  | done => cases pending <;> rfl
  | fail e => cases pending <;> rfl
  | ask q answer ih => exact ih _ pending _
  | emit i next ih =>
      have head : ((emit i next).items asking s).1 = .ok i :: ((next ()).items asking s).1 := rfl
      have last : ((emit i next).upToError.items asking s).2 =
          ((next ()).upToError.items asking s).2 := rfl
      rw [head, last]
      cases pending with
      | none =>
          rw [compressFrom, compressItems]
          split
          · exact ih () none s
          · exact ih () (some i) s
      | some p =>
          rw [compressFrom, compressItems]
          split
          · exact ih () (some p) s
          · cases p.join? i with
            | some joined => exact ih () (some joined) s
            | none =>
                have tail := ih () (some i) s
                show (Except.ok p :: _, _) = _
                rw [tail]

theorem upToError_compressFrom (c : Course ρ α) (pending : Option Interval) :
    (c.compressFrom pending).upToError = c.compressFrom pending := by
  induction c generalizing pending with
  | done => cases pending <;> rfl
  | fail e => cases pending <;> rfl
  | ask q answer ih => exact congrArg (ask q) (funext fun a => ih a pending)
  | emit i next ih =>
      cases pending with
      | none =>
          rw [compressFrom]
          split
          · exact ih () none
          · exact ih () (some i)
      | some p =>
          rw [compressFrom]
          split
          · exact ih () (some p)
          · cases p.join? i with
            | some joined => exact ih () (some joined)
            | none => exact congrArg (emit p) (funext fun u => ih u (some i))

/-! ## Merging -/

namespace Interval

theorem of_join? {p i joined : Interval} (h : p.join? i = some joined) :
    p.stop = i.start ∧ joined = { p with stop := i.stop } := by
  unfold join? at h
  split at h
  · rename_i touch
    exact ⟨touch.1, (Option.some.inj h).symm⟩
  · cases h

theorem same_of_join? {p i joined : Interval} (h : p.join? i = some joined) :
    p.value.same i.value := by
  unfold join? at h
  split at h
  · rename_i touch
    exact touch.2
  · cases h

theorem join?_eq_none_iff {p i : Interval} :
    p.join? i = none ↔ ¬ (p.stop = i.start ∧ p.value.same i.value) := by
  simp [join?]

end Interval

/-- Intervals and the runs that they merge into. -/
inductive Merged : List Interval → List Interval → Prop where
  | nil : Merged [] []
  | single (p : Interval) : Merged [p] [p]
  | joined {p i joined : Interval} {rest runs : List Interval} :
      p.join? i = some joined → Merged (joined :: rest) runs → Merged (p :: i :: rest) runs
  | apart {p i : Interval} {rest runs : List Interval} :
      p.join? i = none → Merged (i :: rest) runs → Merged (p :: i :: rest) (p :: runs)

theorem merged_compressItems (pending : Option Interval) (spans : List Interval) :
    ∃ runs : List Interval, compressItems pending (spans.map .ok) = runs.map .ok ∧
      Merged (pending.toList ++ spans.filter (!·.value.isFalse)) runs := by
  induction spans generalizing pending with
  | nil =>
      refine ⟨pending.toList, rfl, ?_⟩
      cases pending with
      | none => exact .nil
      | some p => exact .single p
  | cons i rest ih =>
      rw [List.map_cons]
      cases held : i.value.isFalse with
      | true =>
          obtain ⟨runs, run, merged⟩ := ih pending
          refine ⟨runs, (compressItems_of_isFalse held pending _).trans run, ?_⟩
          simpa [held] using merged
      | false =>
          rw [List.filter_cons_of_pos (by simpa using held)]
          obtain ⟨runs, run, merged⟩ := ih (some i)
          cases pending with
          | none => exact ⟨runs, (compressItems_none held _).trans run, merged⟩
          | some p =>
              cases join : p.join? i with
              | none =>
                  refine ⟨p :: runs, ?_, .apart join merged⟩
                  rw [compressItems_apart held join, run, List.map_cons]
              | some joined =>
                  obtain ⟨runs, run, merged⟩ := ih (some joined)
                  exact ⟨runs, (compressItems_joined held join _).trans run, .joined join merged⟩

structure InOrder (spans : List Interval) : Prop where
  proper : ∀ i ∈ spans, i.start < i.stop
  ordered : spans.Pairwise fun i later => i.stop ≤ later.start

theorem pairwise_of_isChain {spans : List Interval} (proper : ∀ i ∈ spans, i.start ≤ i.stop)
    (chain : spans.IsChain fun i next => i.stop ≤ next.start) :
    spans.Pairwise fun i later => i.stop ≤ later.start := by
  induction spans with
  | nil => exact .nil
  | cons i rest ih =>
      have behind := ih (List.forall_mem_cons.1 proper).2 chain.tail
      refine List.pairwise_cons.2 ⟨fun later hlater => ?_, behind⟩
      cases rest with
      | nil => cases hlater
      | cons next rest =>
          have step : i.stop ≤ next.start := chain.rel_head? rfl
          rcases List.mem_cons.1 hlater with rfl | hlater
          · exact step
          · have beyond := (List.pairwise_cons.1 behind).1 later hlater
            have within := proper next (List.mem_cons_of_mem _ List.mem_cons_self)
            exact Int64.le_trans step (Int64.le_trans within beyond)

theorem inOrder_of_isChain {spans : List Interval} (proper : ∀ i ∈ spans, i.start < i.stop)
    (chain : spans.IsChain fun i next => i.stop ≤ next.start) : InOrder spans :=
  ⟨proper, pairwise_of_isChain (fun i hi => Int64.le_of_lt (proper i hi)) chain⟩

theorem InOrder.eq_of_contains {spans : List Interval} (h : InOrder spans) {t : Tick}
    {i j : Interval} (hi : i ∈ spans) (hj : j ∈ spans) (inI : i.contains t) (inJ : j.contains t) :
    i = j := by
  have : Std.Symm fun i j : Interval => ¬ (i.contains t ∧ j.contains t) :=
    ⟨fun _ _ apart both => apart both.symm⟩
  have apart : spans.Pairwise fun i j => ¬ (i.contains t ∧ j.contains t) :=
    h.ordered.imp fun {i later} le both => by
      simp only [Interval.contains, Bool.and_eq_true, decide_eq_true_eq] at both
      have lt := Int64.lt_of_lt_of_le both.1.2 le
      exact Int64.not_le.2 lt both.2.1
  by_contra differ
  exact apart.forall hi hj differ ⟨inI, inJ⟩

theorem InOrder.sublist {spans part : List Interval} (h : InOrder spans)
    (sub : part.Sublist spans) : InOrder part :=
  ⟨fun i hi => h.proper i (sub.mem hi), h.ordered.sublist sub⟩

theorem InOrder.joined {p i : Interval} {rest : List Interval} (h : InOrder (p :: i :: rest))
    (touch : p.stop = i.start) : InOrder ({ p with stop := i.stop } :: rest) := by
  obtain ⟨first, second, proper⟩ : p.start < p.stop ∧ i.start < i.stop ∧
      ∀ j ∈ rest, j.start < j.stop := by simpa using h.proper
  obtain ⟨-, ordered⟩ := List.pairwise_cons.1 h.ordered
  refine ⟨List.forall_mem_cons.2 ⟨Int64.lt_trans first (touch ▸ second), proper⟩, ?_⟩
  obtain ⟨before, ordered⟩ := List.pairwise_cons.1 ordered
  exact List.pairwise_cons.2 ⟨before, ordered⟩

theorem Tiles.inOrder {start stop : Tick} {spans : List Interval} (h : Tiles start stop spans) :
    InOrder spans := by
  refine ⟨fun i hi => (h.mem hi).2.1, ?_⟩
  induction spans generalizing start with
  | nil => exact .nil
  | cons i rest ih =>
      obtain ⟨-, -, later⟩ := h
      exact List.pairwise_cons.2 ⟨fun j hj => (later.mem hj).1, ih later⟩

def Spanned (spans : List Interval) (t : Tick) : Prop :=
  ∃ i ∈ spans, i.start ≤ t ∧ t < i.stop

theorem spanned_cons {i : Interval} {rest : List Interval} {t : Tick} :
    Spanned (i :: rest) t ↔ (i.start ≤ t ∧ t < i.stop) ∨ Spanned rest t := by
  simp [Spanned]

namespace Merged
variable {kept runs : List Interval}

theorem start_mem (h : Merged kept runs) {r : Interval} (hr : r ∈ runs) :
    ∃ i ∈ kept, r.start = i.start ∧ r.value = i.value := by
  induction h with
  | nil => cases hr
  | single p => exact ⟨r, hr, rfl, rfl⟩
  | @joined p i joined rest runs join _ ih =>
      obtain ⟨-, rfl⟩ := Interval.of_join? join
      obtain ⟨j, hj, same⟩ := ih hr
      rcases List.mem_cons.1 hj with rfl | hj
      · exact ⟨p, List.mem_cons_self, same⟩
      · exact ⟨j, List.mem_cons_of_mem _ (List.mem_cons_of_mem _ hj), same⟩
  | apart _ _ ih =>
      rcases List.mem_cons.1 hr with rfl | hr
      · exact ⟨r, List.mem_cons_self, rfl, rfl⟩
      · obtain ⟨j, hj, same⟩ := ih hr
        exact ⟨j, List.mem_cons_of_mem _ hj, same⟩

theorem stop_mem (h : Merged kept runs) {r : Interval} (hr : r ∈ runs) :
    ∃ i ∈ kept, r.stop = i.stop := by
  induction h with
  | nil => cases hr
  | single p => exact ⟨r, hr, rfl⟩
  | @joined p i joined rest runs join _ ih =>
      obtain ⟨-, rfl⟩ := Interval.of_join? join
      obtain ⟨j, hj, same⟩ := ih hr
      rcases List.mem_cons.1 hj with rfl | hj
      · exact ⟨i, List.mem_cons_of_mem _ List.mem_cons_self, same⟩
      · exact ⟨j, List.mem_cons_of_mem _ (List.mem_cons_of_mem _ hj), same⟩
  | apart _ _ ih =>
      rcases List.mem_cons.1 hr with rfl | hr
      · exact ⟨r, List.mem_cons_self, rfl⟩
      · obtain ⟨j, hj, same⟩ := ih hr
        exact ⟨j, List.mem_cons_of_mem _ hj, same⟩

theorem exists_head (h : Merged kept runs) {p : Interval} (hp : p ∈ kept.head?) :
    ∃ r ∈ runs.head?, r.start = p.start ∧ r.value = p.value ∧
      (InOrder kept → p.stop ≤ r.stop) := by
  induction h generalizing p with
  | nil => cases hp
  | single q => exact ⟨p, hp, rfl, rfl, fun _ => Int64.le_rfl⟩
  | @joined q i joined rest runs join _ ih =>
      obtain rfl : q = p := Option.some.inj hp
      obtain ⟨touch, rfl⟩ := Interval.of_join? join
      obtain ⟨r, hr, start, value, reach⟩ := ih rfl
      refine ⟨r, hr, start, value, fun order => ?_⟩
      have further : q.stop < i.stop := by
        rw [touch]
        exact order.proper i (List.mem_cons_of_mem _ List.mem_cons_self)
      exact Int64.le_trans (Int64.le_of_lt further) (reach (order.joined touch))
  | apart _ _ _ =>
      obtain rfl := Option.some.inj hp
      exact ⟨_, rfl, rfl, rfl, fun _ => Int64.le_rfl⟩

theorem isChain (h : Merged kept runs) : runs.IsChain fun r next => r.join? next = none := by
  induction h with
  | nil => exact .nil
  | single p => exact .singleton p
  | joined _ _ ih => exact ih
  | @apart p i rest runs join more ih =>
      refine ih.cons fun next hnext => ?_
      obtain ⟨r, hr, start, value, -⟩ := more.exists_head rfl
      obtain rfl := Option.some.inj (hnext.symm.trans hr)
      rw [Interval.join?_eq_none_iff] at join ⊢
      rwa [start, value]

theorem inOrder (h : Merged kept runs) (order : InOrder kept) : InOrder runs := by
  induction h with
  | nil => exact order
  | single p => exact order
  | @joined p i joined rest runs join _ ih =>
      obtain ⟨touch, rfl⟩ := Interval.of_join? join
      exact ih (order.joined touch)
  | apart _ more ih =>
      obtain ⟨proper, ordered⟩ := ih (order.sublist (List.sublist_cons_self _ _))
      obtain ⟨first, -⟩ := List.forall_mem_cons.1 order.proper
      refine ⟨List.forall_mem_cons.2 ⟨first, proper⟩,
        List.pairwise_cons.2 ⟨fun r hr => ?_, ordered⟩⟩
      obtain ⟨j, hj, same, -⟩ := more.start_mem hr
      exact same ▸ (List.pairwise_cons.1 order.ordered).1 j hj

theorem spanned_iff (h : Merged kept runs) (order : InOrder kept) (t : Tick) :
    Spanned runs t ↔ Spanned kept t := by
  induction h with
  | nil => rfl
  | single p => rfl
  | @joined p i joined rest runs join more ih =>
      obtain ⟨touch, rfl⟩ := Interval.of_join? join
      have first := order.proper p List.mem_cons_self
      have second := order.proper i (List.mem_cons_of_mem _ List.mem_cons_self)
      have both : p.start ≤ t ∧ t < i.stop ↔
          (p.start ≤ t ∧ t < p.stop) ∨ (i.start ≤ t ∧ t < i.stop) := by
        grind
      rw [ih (order.joined touch), spanned_cons, spanned_cons, spanned_cons, both, or_assoc]
  | apart _ _ ih =>
      rw [spanned_cons, spanned_cons, ih (order.sublist (List.sublist_cons_self _ _))]

end Merged

end SpanQuery
