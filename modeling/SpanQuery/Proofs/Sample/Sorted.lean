import SpanQuery.Memory

namespace SpanQuery.Sample

theorem Ordered.eq_of_filter_eq {samples samples' : List Sample} (ordered : Ordered samples)
    (ordered' : Ordered samples')
    (same : ∀ t : Tick, samples.filter (·.timestamp = t) = samples'.filter (·.timestamp = t)) :
    samples = samples' := by
  induction samples generalizing samples' with
  | nil =>
      cases samples' with
      | nil => rfl
      | cons s' rest' =>
          have here := same s'.timestamp
          simp at here
  | cons s rest ih =>
      cases samples' with
      | nil =>
          have here := same s.timestamp
          simp at here
      | cons s' rest' =>
          obtain ⟨first, behind⟩ := List.pairwise_cons.1 ordered
          obtain ⟨first', behind'⟩ := List.pairwise_cons.1 ordered'
          -- Neither list has anything before its head, so the heads stand at one tick.
          have le : s'.timestamp ≤ s.timestamp := by
            have mem : s ∈ (s' :: rest').filter (·.timestamp = s.timestamp) := by
              rw [← same]
              simp
            rcases List.mem_cons.1 (List.mem_filter.1 mem).1 with rfl | later
            · exact Int64.le_rfl
            · exact first' s later
          have ge : s.timestamp ≤ s'.timestamp := by
            have mem : s' ∈ (s :: rest).filter (·.timestamp = s'.timestamp) := by
              rw [same]
              simp
            rcases List.mem_cons.1 (List.mem_filter.1 mem).1 with rfl | later
            · exact Int64.le_rfl
            · exact first s' later
          have tick : s'.timestamp = s.timestamp := Int64.le_antisymm le ge
          have heads := same s.timestamp
          rw [List.filter_cons_of_pos (by simp),
            List.filter_cons_of_pos (by simpa using tick)] at heads
          obtain ⟨rfl, -⟩ := List.cons.inj heads
          refine congrArg (s :: ·) (ih behind behind' fun t => ?_)
          have all := same t
          rw [List.filter_cons, List.filter_cons] at all
          split at all
          · exact (List.cons.inj all).2
          · exact all

theorem filter_sort (samples : List Sample) (t : Tick) :
    (sort samples).filter (·.timestamp = t) = samples.filter (·.timestamp = t) := by
  have together : (samples.filter (·.timestamp = t)).Pairwise
      fun s later => decide (s.timestamp ≤ later.timestamp) := by
    refine List.pairwise_filter.2 (List.pairwise_of_forall fun s later here here' => ?_)
    rw [of_decide_eq_true here, of_decide_eq_true here']
    exact decide_eq_true Int64.le_rfl
  have kept : (samples.filter (·.timestamp = t)).Sublist (sort samples) := by
    refine List.sublist_mergeSort ?_ ?_ together List.filter_sublist
    · intro a b c hab hbc
      simp only [decide_eq_true_eq] at hab hbc ⊢
      exact Int64.le_trans hab hbc
    · intro a b
      simpa using Int64.le_total a.timestamp b.timestamp
  have part := kept.filter (·.timestamp = t)
  rw [List.filter_filter] at part
  simp only [Bool.and_self] at part
  refine (part.eq_of_length ?_).symm
  exact ((List.mergeSort_perm samples _).filter _).length_eq.symm

theorem filter_insertInto {series : List Sample} (ordered : Ordered series) (s : Sample)
    (t : Tick) :
    (insertInto series s).filter (·.timestamp = t) =
      series.filter (·.timestamp = t) ++ [s].filter (·.timestamp = t) := by
  have split := congrArg (List.filter (·.timestamp = t)) (upTo_append_after s.timestamp series)
  rw [List.filter_append] at split
  rw [insertInto, List.filter_append, ← split, List.append_assoc]
  congr 1
  by_cases here : s.timestamp = t
  · have none : (after s.timestamp series).filter (·.timestamp = t) = [] := by
      rw [List.filter_eq_nil_iff]
      intro later hlater
      have lt := lt_of_mem_after ordered hlater
      rw [here] at lt
      simpa using (Int64.ne_of_lt lt).symm
    rw [List.filter_cons_of_pos (by simpa using here),
      List.filter_cons_of_pos (by simpa using here), none]
    rfl
  · simp [here]

theorem insertInto_sort (samples : List Sample) (s : Sample) :
    insertInto (sort samples) s = sort (samples ++ [s]) := by
  have ordered := ordered_sort samples
  refine (ordered_insertInto ordered s).eq_of_filter_eq (ordered_sort _) fun t => ?_
  rw [filter_insertInto ordered, filter_sort, filter_sort, List.filter_append]

end SpanQuery.Sample
