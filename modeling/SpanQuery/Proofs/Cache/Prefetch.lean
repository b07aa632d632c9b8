import SpanQuery.Archive
import SpanQuery.Cache
import SpanQuery.Memory
import SpanQuery.Proofs.Course.Draws
import SpanQuery.Proofs.Evaluation.Questions

namespace SpanQuery

open Course

namespace Cache

def hit (c : Cache) (n : Nat) : Cache :=
  { c with hits := c.hits + n }

theorem hit_hit (c : Cache) (m n : Nat) : (c.hit m).hit n = c.hit (m + n) := by
  simp [hit, Nat.add_assoc]

/-! ## Windows that cover a request -/

theorem find?_eq_some_iff {c : Cache} {r : Request} {w : CachedWindow} :
    c.find? r = some w ↔ c.windows.get? r.name = some w ∧ w.t0 ≤ r.t0 ∧ r.t1 ≤ w.t1 := by
  rw [find?, Option.filter_eq_some_iff]
  simp [CachedWindow.covers]

theorem find?_remember_self (c : Cache) (r : Request) (samples : List Sample) :
    (c.remember r (.ok samples)).find? r = some ⟨r.t0, r.t1, samples⟩ :=
  find?_eq_some_iff.2 ⟨Keyed.get?_put_self _ _ _, Int64.le_rfl, Int64.le_rfl⟩

theorem find?_remember_of_ne (c : Cache) {r other : Request} (h : other.name ≠ r.name)
    (answer : Answer) : (c.remember r answer).find? other = c.find? other := by
  cases answer with
  | error e => rfl
  | ok samples => rw [find?, find?, remember, Keyed.get?_put_of_ne _ _ h]

/-- For each of the names a window is remembered in which the one from `t0` to `t1` lies. -/
def Covers (c : Cache) (names : List String) (t0 t1 : Tick) : Prop :=
  ∀ name ∈ names, ∃ w, c.find? ⟨name, t0, t1⟩ = some w

theorem Covers.find? {c : Cache} {names : List String} {t0 t1 : Tick} (h : c.Covers names t0 t1)
    {r : Request} (name : r.name ∈ names) (inside : Request.Within t0 t1 r) :
    ∃ w, c.find? r = some w := by
  obtain ⟨w, found⟩ := h r.name name
  obtain ⟨known, le, le'⟩ := find?_eq_some_iff.1 found
  obtain ⟨start, -, stop⟩ := inside
  exact ⟨w, find?_eq_some_iff.2 ⟨known, Int64.le_trans le start, Int64.le_trans stop le'⟩⟩

section Sources
variable (slice : List Sample → Tick → Tick → List Sample) (inner : Source σ)

theorem find?_sourceBy_of_ne (c : Cache) (s : σ) {r other : Request} (h : other.name ≠ r.name) :
    (sourceBy slice inner r (c, s)).2.1.find? other = c.find? other := by
  cases found : c.find? r with
  | some w =>
      rw [sourceBy_hit slice inner found]
      rfl
  | none =>
      rw [sourceBy_miss slice inner found]
      exact find?_remember_of_ne _ h _

variable {slice inner}

theorem find?_sourceBy_self {c : Cache} {s : σ} {r : Request} {samples : List Sample}
    (answered : (sourceBy slice inner r (c, s)).1 = .ok samples) :
    ∃ w, (sourceBy slice inner r (c, s)).2.1.find? r = some w := by
  cases found : c.find? r with
  | some w =>
      rw [sourceBy_hit slice inner found]
      exact ⟨w, found⟩
  | none =>
      rw [sourceBy_miss slice inner found] at answered ⊢
      rw [answered]
      exact ⟨_, find?_remember_self _ r samples⟩

theorem Covers.sourceBy {c : Cache} {names : List String} {t0 t1 : Tick}
    (h : c.Covers names t0 t1) {s : σ} {name : String} {samples : List Sample}
    (answered : (Cache.sourceBy slice inner ⟨name, t0, t1⟩ (c, s)).1 = .ok samples) :
    (Cache.sourceBy slice inner ⟨name, t0, t1⟩ (c, s)).2.1.Covers (name :: names) t0 t1 := by
  intro other mem
  by_cases same : other = name
  · rw [same]
    exact find?_sourceBy_self answered
  · rw [find?_sourceBy_of_ne slice inner c s same]
    exact h other ((List.mem_cons.1 mem).resolve_left same)

/-! ## Fetching beforehand -/

variable (slice inner)

theorem Covers.fetched {c : Cache} {s : σ} {held : List String} {t0 t1 : Tick}
    (h : c.Covers held t0 t1) {names : List String}
    (answered : ∀ answer ∈ (names.mapM (fun name => Cache.sourceBy slice inner ⟨name, t0, t1⟩)
      (c, s)).1, ∃ samples, answer = .ok samples) :
    (names.mapM (fun name => Cache.sourceBy slice inner ⟨name, t0, t1⟩) (c, s)).2.1.Covers
      (names ++ held) t0 t1 := by
  induction names generalizing c s held with
  | nil => exact h
  | cons name names ih =>
      rw [List.mapM_cons] at answered ⊢
      obtain ⟨⟨samples, first⟩, later⟩ := List.forall_mem_cons.1 answered
      -- The name that was fetched joins the covered ones, wherever it stands among them.
      intro other mem
      refine ih (h.sourceBy first) later other ?_
      rw [List.cons_append] at mem
      exact List.perm_middle.mem_iff.2 mem

theorem log_fetched (c : Cache) (log : List Request) (s : σ) {names : List String}
    (distinct : names.Nodup) (t0 t1 : Tick) :
    (names.mapM (fun name => Cache.sourceBy slice inner.logged ⟨name, t0, t1⟩)
        (c, log, s)).2.2.1 =
      log ++ (names.filter fun name => (c.find? ⟨name, t0, t1⟩).isNone).map (⟨·, t0, t1⟩) := by
  induction names generalizing c log s with
  | nil => exact (List.append_nil log).symm
  | cons name names ih =>
      obtain ⟨fresh, distinct⟩ := List.nodup_cons.1 distinct
      -- No later name is this one, so none of them finds another window than before.
      let after := Cache.sourceBy slice inner.logged ⟨name, t0, t1⟩ (c, log, s)
      have rest : names.filter (fun other => (after.2.1.find? ⟨other, t0, t1⟩).isNone) =
          names.filter fun other => (c.find? ⟨other, t0, t1⟩).isNone := by
        refine List.filter_congr fun other mem => ?_
        rw [find?_sourceBy_of_ne]
        exact fun same : other = name => fresh (same ▸ mem)
      rw [List.mapM_cons]
      change (names.mapM (fun name => Cache.sourceBy slice inner.logged ⟨name, t0, t1⟩)
        (after.2.1, after.2.2.1, after.2.2.2)).2.2.1 = _
      rw [ih _ _ _ distinct, rest, List.filter_cons]
      cases found : c.find? ⟨name, t0, t1⟩ with
      | some w =>
          have same : after.2.2.1 = log := by
            simp only [after, sourceBy_hit slice inner.logged found]
          simp [same]
      | none =>
          have one : after.2.2.1 = log ++ [⟨name, t0, t1⟩] := by
            simp only [after, sourceBy_miss slice inner.logged found]
            rfl
          simp [one]

/-! ## Drawing from a cache -/

section Draws
variable {c : Cache} {names : List String} {t0 t1 : Tick} (h : c.Covers names t0 t1)
  {course : Course Request Answer}
  (asks : course.Asks fun r => r.name ∈ names ∧ Request.Within t0 t1 r)
include h asks

theorem Covers.draw (s : σ) :
    (course.draw (Cache.sourceBy slice inner) (c, s)).2 =
        (c.hit (course.draw (Cache.sourceBy slice inner) (c, s)).1.1.requests.length, s) ∧
      (course.draw (Cache.sourceBy slice inner) (c, s)).1.2.Asks
        fun r => r.name ∈ names ∧ Request.Within t0 t1 r := by
  induction course generalizing c with
  | done => exact ⟨rfl, asks⟩
  | fail e next _ => exact ⟨rfl, asks⟩
  | emit i next _ => exact ⟨rfl, asks⟩
  | ask q answer ih =>
      obtain ⟨⟨name, inside⟩, later⟩ := asks
      -- A hit leaves the windows alone, so whatever is asked next is covered again.
      obtain ⟨w, found⟩ := h.find? name inside
      obtain ⟨state, rest⟩ := @ih (.ok (slice w.samples q.t0 q.t1)) (c.hit 1) h (later _)
      rw [draw_ask, sourceBy_hit slice inner found, ← hit]
      dsimp only
      generalize (answer _).draw _ (c.hit 1, s) = drawn at state rest ⊢
      obtain ⟨⟨d, course⟩, s'⟩ := drawn
      refine ⟨?_, rest⟩
      calc s' = ((c.hit 1).hit d.requests.length, s) := state
        _ = (c.hit (q :: d.requests).length, s) := by rw [hit_hit, Nat.add_comm, List.length_cons]

theorem Covers.drawsAmid {inv : σ → Prop} {changes : List (σ → σ)}
    (kept : ∀ change ∈ changes, ∀ s, inv s → inv (change s)) {s : σ} (hs : inv s) :
    ∃ s', inv s' ∧
      (Course.drawsAmid (Cache.sourceBy slice inner) (changes.map (Prod.map id)) course (c, s)).2 =
        (c.hit ((Course.drawsAmid (Cache.sourceBy slice inner) (changes.map (Prod.map id)) course
          (c, s)).1.flatMap (·.requests)).length, s') := by
  induction changes generalizing c course s with
  | nil => exact ⟨s, hs, rfl⟩
  | cons change changes ih =>
      obtain ⟨first, kept⟩ := List.forall_mem_cons.1 kept
      obtain ⟨state, rest⟩ := h.draw slice inner asks (change s)
      have moved : Prod.map id change (c, s) = (c, change s) := rfl
      rw [List.map_cons, drawsAmid_cons, moved]
      generalize course.draw _ (c, change s) = drawn at state rest ⊢
      obtain ⟨⟨d, course⟩, s'⟩ := drawn
      obtain rfl : s' = (c.hit d.requests.length, change s) := state
      obtain ⟨last, hlast, later⟩ :=
        @ih (c.hit d.requests.length) h course rest kept (change s) (first s hs)
      refine ⟨last, hlast, ?_⟩
      dsimp only
      rw [List.flatMap_cons, List.length_append, ← hit_hit, ← later]

end Draws

end Sources

end Cache

/-! ## Expressions -/

theorem nodup_eraseDups (names : List String) : names.eraseDups.Nodup := by
  cases names with
  | nil => exact .nil
  | cons name names =>
      rw [List.eraseDups_cons]
      refine List.nodup_cons.2 ⟨?_, nodup_eraseDups _⟩
      simp
termination_by names.length
decreasing_by exact Nat.lt_succ_of_le (List.length_filter_le _ names)

theorem Expr.nodup_variableNames (e : Expr) : e.variableNames.Nodup :=
  nodup_eraseDups e.occurrences

namespace Archive

def warmAnswers (a : Archive σ) (e : Expr) (t0 t1 : Tick) : StateM σ (List Answer) :=
  e.variableNames.mapM fun name => a.source ⟨name, t0, t1⟩

theorem warm_eq (a : Archive σ) (e : Expr) (t0 t1 : Tick) (s : σ) :
    a.warm e t0 t1 s = ((), (a.warmAnswers e t0 t1 s).2) := by
  unfold warm warmAnswers
  induction e.variableNames generalizing s with
  | nil => rfl
  | cons name names ih =>
      rw [List.mapM_cons]
      exact ih _

end Archive

/-- If all variables of an expression could be fetched beforehand, then all requests of its
evaluation are hits, whatever becomes of the source behind the cache meanwhile: it is not asked, and
all windows stay as they are. If the cache was empty, then every variable has been fetched once from
the source, over the whole window. -/
theorem draws_prefetched (slice : List Sample → Tick → Tick → List Sample) (inner : Source σ)
    (e : Expr) (t0 t1 : Tick) (c : Cache) (s : σ)
    (fetched : ∀ answer ∈
      ((⟨Cache.sourceBy slice inner.logged, true⟩ : Archive _).warmAnswers e t0 t1 (c, [], s)).1,
      ∃ samples, answer = .ok samples) :
    ∃ (warmed : Cache) (log : List Request) (s' : σ),
      (⟨Cache.sourceBy slice inner.logged, true⟩ : Archive _).searchRanges e t0 t1 (c, [], s) =
        (e.course t0 t1, warmed, log, s') ∧
      (∀ (cut : Sample.Cut) (changes : List (σ → σ)),
        let drawn := drawsAmid (Cache.sourceBy slice inner.logged)
          (changes.map fun change st => (st.1, st.2.1, change st.2.2)) (e.courseBy cut t0 t1)
          (warmed, log, s')
        drawn.2.1 = warmed.hit (drawn.1.flatMap (·.requests)).length ∧ drawn.2.2.1 = log) ∧
      (c.windows = [] →
        log = e.variableNames.map (⟨·, t0, t1⟩) ∧ e.variableNames.Nodup ∧
          ∀ name, name ∈ e.variableNames ↔ name ∈ e.occurrences) := by
  let a : Archive (Cache × List Request × σ) := ⟨Cache.sourceBy slice inner.logged, true⟩
  let warmed := (a.warmAnswers e t0 t1 (c, [], s)).2
  have search : a.searchRanges e t0 t1 (c, [], s) = (e.course t0 t1, warmed) :=
    congrArg (fun p : Unit × Cache × List Request × σ => (e.course t0 t1, p.2))
      (a.warm_eq e t0 t1 (c, [], s))
  have nothing : c.Covers [] t0 t1 := nofun
  have covers : warmed.1.Covers (e.variableNames ++ []) t0 t1 :=
    nothing.fetched slice inner.logged fetched
  rw [List.append_nil] at covers
  have asks (cut : Sample.Cut) : (e.courseBy cut t0 t1).Asks fun r =>
      r.name ∈ e.variableNames ∧ Request.Within t0 t1 r := by
    by_cases lt : t0 < t1
    · refine (e.asks_occurrences cut lt).mono fun r asked => ⟨?_, asked.2⟩
      exact List.mem_eraseDups.2 asked.1
    · rw [e.courseBy_of_le cut (Int64.not_lt.1 lt)]
      trivial
  refine ⟨warmed.1, warmed.2.1, warmed.2.2, search, fun cut changes => ?_,
    fun empty => ⟨?_, ?_, ?_⟩⟩
  · -- Changes of the source leave the log of its requests as it is.
    have kept : ∀ change ∈ changes.map (Prod.map (@id (List Request))), ∀ st : List Request × σ,
        st.1 = warmed.2.1 → (change st).1 = warmed.2.1 := by
      intro change mem st same
      obtain ⟨f, -, rfl⟩ := List.mem_map.1 mem
      exact same
    obtain ⟨last, same, state⟩ :=
      covers.drawsAmid slice inner.logged (asks cut) kept (s := warmed.2) rfl
    rw [List.map_map] at state
    intro drawn
    have drawn_state : drawn.2 = (warmed.1.hit (drawn.1.flatMap (·.requests)).length, last) := state
    exact ⟨congrArg (·.1) drawn_state, (congrArg (·.2.1) drawn_state).trans same⟩
  · have uncovered : ∀ name ∈ e.variableNames, (c.find? ⟨name, t0, t1⟩).isNone := by
      intro name _
      simp [Cache.find?, empty, Keyed.get?]
    have log := Cache.log_fetched slice inner c [] s e.nodup_variableNames t0 t1
    rwa [List.filter_eq_self.2 uncovered] at log
  · exact e.nodup_variableNames
  · exact fun name => List.mem_eraseDups

theorem draws_prefetched_outage :
    let m := ((Memory.empty.push "A" ⟨0, 1⟩).push "A" ⟨3, 4⟩).push "B" ⟨-2, 2⟩
    let inner := Memory.source.interruptible
    let e := Expr.binary .add (.variable "A") (.variable "B")
    let a : Archive _ := ⟨Cache.source inner.logged, true⟩
    (∀ answer ∈ (a.warmAnswers e 0 10 (Cache.empty, [], none, m)).1,
      ∃ samples, answer = .ok samples) ∧
    ∃ (warmed : Cache) (log : List Request) (s' : Option String × Memory),
      a.searchRanges e 0 10 (Cache.empty, [], none, m) = (e.course 0 10, warmed, log, s') ∧
      (∀ (cut : Sample.Cut) (changes : List (Option String × Memory → Option String × Memory)),
        let drawn := drawsAmid a.source
          (changes.map fun change st => (st.1, st.2.1, change st.2.2)) (e.courseBy cut 0 10)
          (warmed, log, s')
        drawn.2.1 = warmed.hit (drawn.1.flatMap (·.requests)).length ∧ drawn.2.2.1 = log) ∧
      (Cache.empty.windows = [] →
        log = e.variableNames.map (⟨·, 0, 10⟩) ∧ e.variableNames.Nodup ∧
          ∀ name, name ∈ e.variableNames ↔ name ∈ e.occurrences) := by
  intro m inner e a
  have answers : (a.warmAnswers e 0 10 (Cache.empty, [], none, m)).1 =
      [.ok [⟨0, 1⟩, ⟨3, 4⟩], .ok [⟨-2, 2⟩]] := rfl
  have fetched : ∀ answer ∈ (a.warmAnswers e 0 10 (Cache.empty, [], none, m)).1,
      ∃ samples, answer = .ok samples := by
    rw [answers]
    simp
  exact ⟨fetched, draws_prefetched Sample.window inner e 0 10 Cache.empty (none, m) fetched⟩

end SpanQuery
