import SpanQuery.Proofs.Archive.Fetch
import SpanQuery.Proofs.Cache.Transparency
import SpanQuery.Proofs.Evaluation.Narrowed
import SpanQuery.Proofs.Evaluation.Questions

/-!
# Answers wider than their windows

A source may answer with more samples than matter in the window, and with another surplus each time.
Nobody who asks it can tell, since all that it may answer has the same window.
-/

namespace SpanQuery

namespace Sample

/-- A contiguous part of a series that has in it all samples inside the window from `t0` to `t1`
and the last sample that is not after `t0`, if there is one. -/
def Suffices (series : List Sample) (t0 t1 : Tick) (part : List Sample) : Prop :=
  ∃ before later, series = before ++ part ++ later ∧
    (∀ s ∈ before ++ later, ¬ (t0 < s.timestamp ∧ s.timestamp < t1)) ∧
    (upTo t0 series ≠ [] →
      before.length < (upTo t0 series).length ∧
        (upTo t0 series).length ≤ (before ++ part).length)

variable {series part : List Sample} {t0 t1 : Tick}

theorem suffices_self (series : List Sample) (t0 t1 : Tick) : Suffices series t0 t1 series := by
  refine ⟨[], [], by simp, by simp, fun some => ⟨List.length_pos_iff.2 some, ?_⟩⟩
  exact (List.takeWhile_sublist _).length_le

theorem suffices_window (ordered : Ordered series) (lt : t0 < t1) :
    Suffices series t0 t1 (window series t0 t1) := by
  let inside := (after t0 series).takeWhile (·.timestamp < t1)
  let beyond := (after t0 series).dropWhile (·.timestamp < t1)
  have split : upTo t0 series ++ (inside ++ beyond) = series := by
    rw [List.takeWhile_append_dropWhile, upTo_append_after]
  have late : ∀ s ∈ beyond, ¬ (t0 < s.timestamp ∧ s.timestamp < t1) := fun s hs h =>
    not_of_mem_dropWhile (p := (· < t1)) Int64.lt_of_le_of_lt (ordered.after t0) hs h.2
  rw [window_eq series lt]
  cases anchored : (upTo t0 series).getLast? with
  | none =>
      have none : upTo t0 series = [] := List.getLast?_eq_none_iff.1 anchored
      refine ⟨[], beyond, ?_, by simpa using late, fun some => absurd none some⟩
      rw [none] at split
      exact split.symm
  | some anchor =>
      obtain ⟨earlier, early⟩ := List.getLast?_eq_some_iff.1 anchored
      refine ⟨earlier, beyond, ?_, ?_, fun _ => ?_⟩
      · rw [early] at split
        simpa using split.symm
      · intro s hs h
        rcases List.mem_append.1 hs with hs | hs
        · have mem : s ∈ upTo t0 series := by simp [early, hs]
          exact absurd h.1 (Int64.not_lt.2 (le_of_mem_upTo mem))
        · exact late s hs h
      · rw [early]
        simp

section Ordered
variable (ordered : Ordered series) (h : Suffices series t0 t1 part)
include ordered h

theorem Suffices.ordered_part : Ordered part := by
  obtain ⟨before, later, rfl, -⟩ := h
  exact (List.pairwise_append.1 (List.pairwise_append.1 ordered).1).2.1

theorem Suffices.anchor_eq : (upTo t0 part).getLast? = (upTo t0 series).getLast? := by
  have partOrdered := h.ordered_part ordered
  obtain ⟨before, later, split, -, anchored⟩ := h
  have early : upTo t0 series = before.filter (·.timestamp ≤ t0) ++ upTo t0 part ++
      later.filter (·.timestamp ≤ t0) := by
    rw [(ordered.upTo_eq t0).1, (partOrdered.upTo_eq t0).1, split, List.filter_append,
      List.filter_append]
  by_cases none : upTo t0 series = []
  · rw [none] at early ⊢
    simp only [List.nil_eq, List.append_eq_nil_iff] at early
    rw [early.1.2]
  · obtain ⟨first, last⟩ := anchored none
    -- What follows the part stands behind the anchor, so it is after `t0`.
    have suffix : later <:+ after t0 series := by
      refine List.suffix_of_suffix_length_le ⟨before ++ part, split.symm⟩
        ⟨upTo t0 series, upTo_append_after t0 series⟩ ?_
      have whole := congrArg List.length (upTo_append_after t0 series)
      have parts := congrArg List.length split
      rw [List.length_append] at whole parts
      omega
    have noneLater : later.filter (·.timestamp ≤ t0) = [] := by
      rw [List.filter_eq_nil_iff]
      intro s hs
      simpa using lt_of_mem_after ordered (suffix.mem hs)
    have someInside : upTo t0 part ≠ [] := by
      intro none
      have count := congrArg List.length early
      rw [none, noneLater, List.append_nil, List.append_nil] at count
      have := List.length_filter_le (fun s : Sample => decide (s.timestamp ≤ t0)) before
      omega
    rw [early, noneLater, List.append_nil, List.getLast?_append]
    cases anchor : (upTo t0 part).getLast? with
    | none => exact absurd (List.getLast?_eq_none_iff.1 anchor) someInside
    | some s => rfl

omit ordered in
theorem Suffices.inside_eq : (part.filter fun s => t0 < s.timestamp ∧ s.timestamp < t1) =
    series.filter fun s => t0 < s.timestamp ∧ s.timestamp < t1 := by
  obtain ⟨before, later, split, outside, -⟩ := h
  have none : ∀ rest : List Sample, (∀ s ∈ rest, s ∈ before ++ later) →
      rest.filter (fun s => t0 < s.timestamp ∧ s.timestamp < t1) = [] := by
    intro rest sub
    rw [List.filter_eq_nil_iff]
    intro s hs
    simpa using outside s (sub s hs)
  rw [split, List.filter_append, List.filter_append, none before (by simp +contextual),
    none later (by simp +contextual), List.nil_append, List.append_nil]

theorem Suffices.window_eq (lt : t0 < t1) : window part t0 t1 = window series t0 t1 := by
  rw [Sample.window_eq part lt, Sample.window_eq series lt, h.anchor_eq ordered,
    takeWhile_after (h.ordered_part ordered), takeWhile_after ordered, h.inside_eq]

theorem Suffices.inWindow_eq (lt : t0 < t1) :
    Archive.inWindow part t0 t1 = Archive.inWindow series t0 t1 := by
  rw [Archive.inWindow_eq (h.ordered_part ordered) lt, Archive.inWindow_eq ordered lt,
    h.anchor_eq ordered, h.inside_eq]

end Ordered

end Sample

/-! ## Sources -/

namespace Memory

/-- What a source with the series of a memory may answer. -/
inductive Allows (m : Memory) (r : Request) : Answer → Prop where
  | unknown (missing : m.samples? r.name = none) : Allows m r (.error (.variableNotFound r.name))
  | part {series part : List Sample} (known : m.samples? r.name = some series)
      (enough : Sample.Suffices series r.t0 r.t1 part) : Allows m r (.ok part)

/-- A source that gives such answers to all requests for windows that are not empty, in all states
that satisfy `inv`. -/
def Legal (m : Memory) (source : Source σ) (inv : σ → Prop) : Prop :=
  ∀ r s, inv s → (r.t0 < r.t1 → m.Allows r (source r s).1) ∧ inv (source r s).2

variable {m : Memory} {r : Request}

theorem Allows.ordered {samples : List Sample} (h : m.Allows r (.ok samples)) :
    Sample.Ordered samples := by
  cases h with
  | part known enough => exact enough.ordered_part (m.ordered_samples? known)

theorem Allows.narrow_eq {answer : Answer} (h : m.Allows r answer) (lt : r.t0 < r.t1) :
    r.narrow answer = m.answer r := by
  unfold Memory.answer
  cases h with
  | unknown missing =>
      rw [missing]
      rfl
  | part known enough =>
      rw [known]
      exact congrArg Except.ok (enough.window_eq (m.ordered_samples? known) lt)

theorem allows_answer (m : Memory) (lt : r.t0 < r.t1) : m.Allows r (m.answer r) := by
  unfold Memory.answer
  cases known : m.samples? r.name with
  | none => exact .unknown known
  | some series => exact .part known (Sample.suffices_window (m.ordered_samples? known) lt)

theorem allows_wholeAnswer (m : Memory) (r : Request) : m.Allows r (m.wholeAnswer r) := by
  unfold wholeAnswer
  cases known : m.samples? r.name with
  | none => exact .unknown known
  | some series => exact .part known (Sample.suffices_self series r.t0 r.t1)

def unevenSource : Source (Bool × Memory) :=
  fun r (whole, m) => (if whole then m.wholeAnswer r else m.answer r, (!whole, m))

theorem legal_unevenSource (m : Memory) : m.Legal unevenSource (·.2 = m) := by
  rintro r ⟨whole, m⟩ rfl
  refine ⟨fun lt => ?_, rfl⟩
  cases whole with
  | false => exact m.allows_answer lt
  | true => exact m.allows_wholeAnswer r

variable {source : Source σ} {inv : σ → Prop}

theorem Legal.replies (h : m.Legal source inv) :
    Replies source.narrowed (fun r => r.t0 < r.t1) inv m.answer := by
  intro r s lt hs
  obtain ⟨allows, kept⟩ := h r s hs
  exact ⟨(allows lt).narrow_eq lt, kept⟩

end Memory

/-! ## Caches -/

def Cache.Backed (m : Memory) (c : Cache) : Prop :=
  ∀ name w, c.windows.get? name = some w → w.t0 < w.t1 → m.Allows ⟨name, w.t0, w.t1⟩ (.ok w.samples)

namespace Memory
variable {m : Memory} {source : Source σ} {inv : σ → Prop} {c : Cache}

theorem Allows.hit {w : CachedWindow} {r : Request}
    (h : m.Allows ⟨r.name, w.t0, w.t1⟩ (.ok w.samples)) (le : w.t0 ≤ r.t0) (lt : r.t0 < r.t1)
    (le' : r.t1 ≤ w.t1) : m.Allows r (.ok (Sample.window w.samples r.t0 r.t1)) := by
  have proper : w.t0 < w.t1 := Int64.lt_of_le_of_lt le (Int64.lt_of_lt_of_le lt le')
  have ordered := h.ordered
  cases h with
  | part known enough =>
      have whole := m.ordered_samples? known
      refine .part known ?_
      rw [← Sample.window_window ordered le lt le', enough.window_eq whole proper,
        Sample.window_window whole le lt le']
      exact Sample.suffices_window whole lt

theorem backed_remember (backed : c.Backed m) {r : Request} {answer : Answer}
    (allows : r.t0 < r.t1 → m.Allows r answer) : (c.remember r answer).Backed m := by
  cases answer with
  | error e => exact backed
  | ok samples =>
      intro name w known
      by_cases same : name = r.name
      · subst same
        obtain rfl := Option.some.inj ((Keyed.get?_put_self _ _ _).symm.trans known)
        exact allows
      · exact backed name w ((Keyed.get?_put_of_ne _ _ same).symm.trans known)

theorem Legal.cached (h : m.Legal source inv) :
    m.Legal (Cache.source source) fun s => s.1.Backed m ∧ inv s.2 := by
  rintro r ⟨c, s⟩ ⟨backed, hs⟩
  cases found : c.find? r with
  | some w =>
      obtain ⟨known, covers⟩ := Option.filter_eq_some_iff.1 found
      simp only [CachedWindow.covers, Bool.and_eq_true, decide_eq_true_eq] at covers
      rw [Cache.source, Cache.sourceBy_hit _ source found]
      refine ⟨fun lt => ?_, backed, hs⟩
      have proper := Int64.lt_of_le_of_lt covers.1 (Int64.lt_of_lt_of_le lt covers.2)
      exact (backed r.name w known proper).hit covers.1 lt covers.2
  | none =>
      obtain ⟨allows, kept⟩ := h r s hs
      rw [Cache.source, Cache.sourceBy_miss _ source found]
      exact ⟨allows, backed_remember (c := { c with misses := c.misses + 1 }) backed allows, kept⟩

theorem Legal.backed_uses (h : m.Legal source inv) (uses : List Cache.Use) {s : Cache × σ}
    (hs : s.1.Backed m ∧ inv s.2) :
    let later := (uses.mapM (Cache.use source) s).2
    later.1.Backed m ∧ inv later.2 := by
  induction uses generalizing s with
  | nil => exact hs
  | cons u uses ih =>
      rw [List.mapM_cons]
      refine ih (s := (Cache.use source u s).2) ?_
      cases u with
      | fetch r => exact (h.cached r s hs).2
      | clear => exact ⟨nofun, hs.2⟩

end Memory

/-! ## Archives -/

namespace Archive

def narrowed (a : Archive σ) : Archive σ :=
  { a with source := a.source.narrowed }

section Questions
variable (a : Archive σ) (e : Expr) (t0 t1 : Tick)

theorem warm_narrowed (s : σ) : a.narrowed.warm e t0 t1 s = a.warm e t0 t1 s := by
  unfold warm
  induction e.variableNames generalizing s with
  | nil => rfl
  | cons name names ih => exact ih (a.source ⟨name, t0, t1⟩ s).2

theorem searchRanges_narrowed : a.narrowed.searchRanges e t0 t1 = a.searchRanges e t0 t1 := by
  obtain ⟨source, prefetch⟩ := a
  funext s
  cases prefetch with
  | false => rfl
  | true =>
      change (_, ((⟨source, true⟩ : Archive σ).narrowed.warm e t0 t1 s).2) = _
      rw [warm_narrowed]
      rfl

theorem findRanges_narrowed : a.narrowed.findRanges e t0 t1 = a.findRanges e t0 t1 := by
  rw [findRanges, searchRanges_narrowed]
  rfl

theorem narrows_searchRanges (s : σ) : (a.searchRanges e t0 t1 s).1.Narrows := by
  rw [searchRanges_course]
  exact e.narrows_course t0 t1

theorem narrows_findRanges (s : σ) : (a.findRanges e t0 t1 s).1.Narrows :=
  (a.narrows_searchRanges e t0 t1 s).compressFrom none

theorem searchedItems_narrowed (s : σ) :
    a.narrowed.searchedItems e t0 t1 s = a.searchedItems e t0 t1 s := by
  rw [searchedItems, searchRanges_narrowed]
  exact (a.narrows_searchRanges e t0 t1 s).items_eq a.source _

theorem foundItems_narrowed (s : σ) :
    a.narrowed.foundItems e t0 t1 s = a.foundItems e t0 t1 s := by
  rw [foundItems, findRanges_narrowed]
  exact (a.narrows_findRanges e t0 t1 s).items_eq a.source _

end Questions

theorem fetch_narrowed (a : Archive σ) {r : Request} (lt : r.t0 < r.t1) (text : Option String)
    {s : σ} (ordered : ∀ samples, (a.source r s).1 = .ok samples → Sample.Ordered samples) :
    (a.narrowed.fetch r text s).1 = (a.fetch r text s).1 := by
  cases parsed : text.mapM Expr.ofQuery? with
  | error e => rw [fetch, fetch, parsed]
  | ok condition =>
      rw [fetch_eq a _ parsed, fetch_eq a.narrowed _ parsed]
      change (a.narrowed.select r condition (r.narrow (a.source r s).1) (a.source r s).2).1 = _
      cases answer : (a.source r s).1 with
      | error e => rfl
      | ok samples =>
          have sorted := ordered samples answer
          have same := (Sample.suffices_window sorted lt).inWindow_eq sorted lt
          change (a.narrowed.select r condition (.ok (Sample.window samples r.t0 r.t1)) _).1 = _
          cases condition with
          | none => exact congrArg Except.ok same
          | some e =>
              unfold select
              dsimp only
              rw [same, findRanges_narrowed]
              exact (a.narrows_findRanges e r.t0 r.t1 _).subsample_eq a.source _ _

/-- Two archives, each in a state, that answer all questions about a window alike. -/
structure Agree (a : Archive σ) (s : σ) (a' : Archive τ) (s' : τ) (t0 t1 : Tick) : Prop where
  searched : ∀ e, (a.searchedItems e t0 t1 s).1 = (a'.searchedItems e t0 t1 s').1
  found : ∀ e, (a.foundItems e t0 t1 s).1 = (a'.foundItems e t0 t1 s').1
  fetched : ∀ name condition,
    (a.fetch ⟨name, t0, t1⟩ condition s).1 = (a'.fetch ⟨name, t0, t1⟩ condition s').1

theorem agree_memory {m : Memory} {source : Source σ} {inv : σ → Prop} (legal : m.Legal source inv)
    {s : σ} (hs : inv s) {t0 t1 : Tick} (lt : t0 < t1) (prefetch prefetch' : Bool) :
    Agree (⟨source, prefetch⟩ : Archive σ) s ⟨Memory.source, prefetch'⟩ m t0 t1 := by
  let a : Archive σ := ⟨source, prefetch⟩
  let a' : Archive Memory := ⟨Memory.source, prefetch'⟩
  let scope (r : Request) : Prop := r.t0 < r.t1
  let unchanged (m' : Memory) : Prop := m' = m
  have replies : Replies a.narrowed.source scope inv m.answer := legal.replies
  have replies' : Replies a'.source scope unchanged m.answer := fun r m' _ =>
    m.replies_source r m' trivial
  have here : unchanged m := rfl
  have asks : ∀ e : Expr, (e.course t0 t1).Asks scope := fun e =>
    (e.asks_within _ lt).mono fun r hr => hr.2.1
  refine ⟨fun e => ?_, fun e => ?_, fun name condition => ?_⟩
  · rw [← a.searchedItems_narrowed]
    exact searchedItems_congr replies replies' (fun _ => lt) (asks e) hs here
  · rw [← a.foundItems_narrowed]
    exact foundItems_congr replies replies' (fun _ => lt) (asks e) hs here
  · have sorted : ∀ samples, (source ⟨name, t0, t1⟩ s).1 = .ok samples →
        Sample.Ordered samples := by
      intro samples answer
      have allows := (legal ⟨name, t0, t1⟩ s hs).1 lt
      rw [answer] at allows
      exact allows.ordered
    rw [← a.fetch_narrowed (r := ⟨name, t0, t1⟩) lt condition sorted]
    exact fetch_congr replies replies' (fun _ => lt) name (fun e _ => asks e) hs here

/-- A legal source answers all questions as the memory of its series does, and so does a cache
before it, whatever was requested from the cache until then. -/
theorem answers_wider {m : Memory} {source : Source σ} {inv : σ → Prop}
    (legal : m.Legal source inv) {s : σ} (hs : inv s) {t0 t1 : Tick} (lt : t0 < t1)
    (prefetch prefetch' : Bool) (uses : List Cache.Use) :
    Agree (⟨source, prefetch⟩ : Archive σ) s ⟨Memory.source, prefetch'⟩ m t0 t1 ∧
      Agree (⟨Cache.source source, prefetch⟩ : Archive (Cache × σ))
        (uses.mapM (Cache.use source) (.empty, s)).2 ⟨Memory.source, prefetch'⟩ m t0 t1 := by
  refine ⟨agree_memory legal hs lt prefetch prefetch', ?_⟩
  have backed := legal.backed_uses uses (s := (.empty, s)) ⟨nofun, hs⟩
  exact agree_memory legal.cached backed lt prefetch prefetch'

theorem answers_wider_uneven :
    let m := (((((Memory.empty.push "A" ⟨-5, 1⟩).push "A" ⟨0, 2⟩).push "A" ⟨0, 3⟩).push "A"
      ⟨4, 0⟩).push "A" ⟨40, 5⟩).push "B" ⟨-1, 2⟩
    let uses : List Cache.Use := [.fetch ⟨"A", 0, 30⟩, .fetch ⟨"B", 8, 2⟩]
    (m.Legal Memory.unevenSource (·.2 = m) ∧ (0 : Tick) < 10) ∧
      Agree (⟨Memory.unevenSource, true⟩ : Archive (Bool × Memory)) (true, m)
        ⟨Memory.source, false⟩ m 0 10 ∧
      Agree (⟨Cache.source Memory.unevenSource, true⟩ : Archive (Cache × Bool × Memory))
        (uses.mapM (Cache.use Memory.unevenSource) (.empty, true, m)).2
        ⟨Memory.source, false⟩ m 0 10 := by
  intro m uses
  exact ⟨⟨m.legal_unevenSource, by decide⟩,
    answers_wider m.legal_unevenSource rfl (by decide) true false uses⟩

end Archive

end SpanQuery
