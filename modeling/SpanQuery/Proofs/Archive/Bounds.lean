import SpanQuery.Proofs.Archive.Fetch
import SpanQuery.Proofs.Evaluation.Coverage

namespace SpanQuery

open Course Sample

namespace Archive

theorem inWindow_of_le {samples : List Sample} (ordered : Ordered samples) {t0 t1 : Tick}
    (le : t1 ≤ t0) :
    inWindow samples t0 t1 =
      (((current? t0 samples).filter (·.timestamp < t1)).map fun s =>
        { s with timestamp := t0 }).toList := by
  have late : (after t0 samples).filter (·.timestamp < t1) = [] := by
    rw [List.filter_eq_nil_iff]
    intro s hs
    have beyond := lt_of_mem_after ordered hs
    simpa using Int64.le_of_lt (Int64.lt_of_le_of_lt le beyond)
  rw [inWindow, fromAnchor_eq, current?_eq ordered, List.filter_append, late, List.append_nil]
  cases anchored : (upTo t0 samples).getLast? with
  | none => rfl
  | some anchor =>
      have moved : max anchor.timestamp t0 = t0 :=
        if_pos (le_of_mem_upTo (List.mem_of_getLast? anchored))
      by_cases early : anchor.timestamp < t1
      · simp [Option.filter, early, moved]
      · simp [Option.filter, early]

theorem pairwise_inWindow {samples : List Sample} (ordered : Ordered samples) (t0 t1 : Tick) :
    Ordered (inWindow samples t0 t1) := by
  by_cases lt : t0 < t1
  · exact ordered_inWindow ordered lt
  · rw [inWindow_of_le ordered (Int64.not_lt.1 lt)]
    cases (current? t0 samples).filter (·.timestamp < t1) <;> simp [Ordered]

section Fetched
variable {a : Archive σ} {r : Request} {s : σ} {fetched : List Sample}

theorem of_fetch_none (h : (a.fetch r none s).1 = .ok fetched) :
    ∃ samples, (a.source r s).1 = .ok samples ∧ fetched = inWindow samples r.t0 r.t1 := by
  rw [fetch_eq a r rfl s] at h
  cases answer : (a.source r s).1 with
  | error e =>
      rw [answer] at h
      cases h
  | ok samples =>
      rw [answer] at h
      exact ⟨samples, rfl, (Except.ok.inj h).symm⟩

theorem of_fetch_some {text : String} (h : (a.fetch r (some text) s).1 = .ok fetched) :
    ∃ samples, (a.source r s).1 = .ok samples ∧ fetched.Sublist (inWindow samples r.t0 r.t1) ∧
      (r.t1 ≤ r.t0 → fetched = []) := by
  have condition := Expr.mapM_ofQuery?_some text
  cases parsed : Expr.ofQuery? text with
  | error e =>
      rw [parsed] at condition
      rw [fetch, condition] at h
      cases h
  | ok e =>
      rw [parsed] at condition
      rw [fetch_eq a r condition s] at h
      cases answer : (a.source r s).1 with
      | error e =>
          rw [answer] at h
          cases h
      | ok samples =>
          rw [answer] at h
          let found := a.findRanges e r.t0 r.t1 (a.source r s).2
          change (found.1.subsample a.source (inWindow samples r.t0 r.t1) found.2).1 = _ at h
          have course : found.1 = (e.course r.t0 r.t1).compress := findRanges_course a e _ _ _
          rw [course, subsample_eq] at h
          refine ⟨samples, rfl, subsampleItems_sublist h, fun le => ?_⟩
          rw [Expr.course, e.courseBy_of_le _ le] at h
          change subsampleItems [] _ = _ at h
          cases inside : inWindow samples r.t0 r.t1 <;> rw [inside] at h <;> cases h <;> rfl

/-- Samples that are fetched from answers in order are in order. They lie in the window if it is not
empty; in an empty one there is nothing, or without a condition the anchor, if it lies before the
end. -/
theorem fetch_bounds {text : Option String}
    (orderly : ∀ samples, (a.source r s).1 = .ok samples → Ordered samples)
    (h : (a.fetch r text s).1 = .ok fetched) :
    Ordered fetched ∧
      (r.t0 < r.t1 → ∀ x ∈ fetched, r.t0 ≤ x.timestamp ∧ x.timestamp < r.t1) ∧
      (r.t1 ≤ r.t0 → text ≠ none → fetched = []) ∧
      (r.t1 ≤ r.t0 → text = none → ∃ samples, (a.source r s).1 = .ok samples ∧
        fetched = (((current? r.t0 samples).filter (·.timestamp < r.t1)).map fun x =>
          { x with timestamp := r.t0 }).toList) := by
  cases text with
  | none =>
      obtain ⟨samples, answer, rfl⟩ := of_fetch_none h
      have ordered := orderly samples answer
      refine ⟨pairwise_inWindow ordered _ _, fun lt x => mem_inWindow ordered lt,
        fun _ some => absurd rfl some, fun le _ => ⟨samples, answer, inWindow_of_le ordered le⟩⟩
  | some text =>
      obtain ⟨samples, answer, part, nothing⟩ := of_fetch_some h
      have ordered := orderly samples answer
      exact ⟨(pairwise_inWindow ordered _ _).sublist part,
        fun lt x hx => mem_inWindow ordered lt (part.mem hx), fun le _ => nothing le, nofun⟩

end Fetched

theorem ordered_source {m : Memory} {r : Request} {samples : List Sample}
    (h : (Memory.source r m).1 = .ok samples) : Ordered samples := by
  obtain ⟨series, known, rfl⟩ := Memory.exists_of_answer h
  exact ordered_window (m.ordered_samples? known) _ _

theorem fetch_bounds_anchor :
    let m := (((Memory.empty.push "A" ⟨-2, 3⟩).push "A" ⟨3, 0⟩).push "A" ⟨3, 1⟩).push "A" ⟨12, 5⟩
    let a : Archive Memory := ⟨Memory.source, true⟩
    let fetched : List Sample := [⟨0, 3⟩, ⟨3, 0⟩, ⟨3, 1⟩]
    ((∀ samples, (a.source ⟨"A", 0, 10⟩ m).1 = .ok samples → Ordered samples) ∧
      (a.fetch ⟨"A", 0, 10⟩ (some "A") m).1 = .ok fetched) ∧
    Ordered fetched ∧ ((0 : Tick) < 10 → ∀ x ∈ fetched, 0 ≤ x.timestamp ∧ x.timestamp < 10) := by
  intro m a fetched
  have orderly : ∀ samples, (a.source ⟨"A", 0, 10⟩ m).1 = .ok samples → Ordered samples :=
    fun _ => ordered_source
  have tokens : Lexer.tokens "A".toList = .ok [⟨.name "A", ['A'], 0⟩] := by
    refine Lexer.tokensFrom_of_token rfl rfl rfl rfl ?_
    exact Lexer.tokensFrom_of_blank rfl
  have parsed : (some "A").mapM Expr.ofQuery? = .ok (some (.variable "A")) := by
    rw [Expr.mapM_ofQuery?_some, Expr.ofQuery?, Expr.ofText?, Expr.ofChars?, tokens]
    rfl
  have result : (a.fetch ⟨"A", 0, 10⟩ (some "A") m).1 = .ok fetched := by
    rw [fetch_eq a _ parsed]
    rfl
  have bounds := fetch_bounds orderly result
  exact ⟨⟨orderly, result⟩, bounds.1, bounds.2.1⟩

/-- In the empty window from 10 to 10 there is a sample at tick 10, though all answers are in
order. -/
theorem fetch_beyond :
    let m := Memory.empty.push "A" ⟨0, 1⟩
    let a : Archive Memory := ⟨Memory.source, false⟩
    (∀ r samples, (a.source r m).1 = .ok samples → Ordered samples) ∧
    ∃ fetched : List Sample, (a.fetch ⟨"A", 10, 10⟩ none m).1 = .ok fetched ∧
      ∃ x ∈ fetched, ¬ (10 ≤ x.timestamp ∧ x.timestamp < 10) := by
  intro m a
  refine ⟨fun r samples => ordered_source, [⟨10, 1⟩], rfl, ⟨10, 1⟩, List.mem_cons_self, ?_⟩
  decide

end Archive

end SpanQuery
