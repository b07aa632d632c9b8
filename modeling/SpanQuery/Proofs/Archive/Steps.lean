import SpanQuery.Proofs.Archive.Fetch

namespace SpanQuery

open Course

namespace Sample

def lasts : List Sample → List Sample
  | [] => []
  | s :: later => if later.any (·.timestamp = s.timestamp) then lasts later else s :: lasts later

theorem lasts_of_eq {s next : Sample} (here : s.timestamp = next.timestamp)
    (later : List Sample) : lasts (s :: next :: later) = lasts (next :: later) := by
  rw [lasts, if_pos]
  simp [here]

theorem lasts_of_lt {s : Sample} {later : List Sample}
    (apart : ∀ next ∈ later, s.timestamp < next.timestamp) :
    lasts (s :: later) = s :: lasts later := by
  rw [lasts, if_neg]
  rw [Bool.not_eq_true, List.any_eq_false]
  intro next hnext same
  have lt := apart next hnext
  rw [of_decide_eq_true same] at lt
  exact Int64.lt_irrefl lt

def step (s : Sample) : Tick × Value :=
  (s.timestamp, .number s.value)

theorem items_steps (asking : ρ → StateM σ α) (state : σ) {later : List Sample}
    (ordered : Ordered later) {start stop : Tick} (value : Float)
    (inside : ∀ s ∈ later, start ≤ s.timestamp ∧ s.timestamp < stop) :
    ∃ spans : List Interval,
      ((steps stop start value later : Course ρ α).items asking state).1 = spans.map .ok ∧
      spans.map (fun i => (i.start, i.value)) = (lasts (⟨start, value⟩ :: later)).map step := by
  induction later generalizing start value with
  | nil => exact ⟨[⟨start, stop, .number value⟩], rfl, rfl⟩
  | cons next later ih =>
      obtain ⟨behind, ordered⟩ := List.pairwise_cons.1 ordered
      obtain ⟨⟨le, lt⟩, inside⟩ := List.forall_mem_cons.1 inside
      have beyond : ∀ s ∈ later, next.timestamp ≤ s.timestamp ∧ s.timestamp < stop :=
        fun s hs => ⟨behind s hs, (inside s hs).2⟩
      have rest := ih ordered next.value beyond
      rw [steps, if_pos lt]
      by_cases past : next.timestamp ≤ start
      · have here : start = next.timestamp := Int64.le_antisymm le past
        rw [if_pos past, lasts_of_eq here, here]
        exact rest
      · have apart : start < next.timestamp := Int64.not_le.1 past
        have alone : lasts (⟨start, value⟩ :: next :: later) =
            ⟨start, value⟩ :: lasts (next :: later) :=
          lasts_of_lt (List.forall_mem_cons.2
            ⟨apart, fun s hs => Int64.lt_of_lt_of_le apart (behind s hs)⟩)
        obtain ⟨spans, run, same⟩ := rest
        rw [if_neg past, alone, List.map_cons]
        exact ⟨⟨start, next.timestamp, .number value⟩ :: spans, congrArg (_ :: ·) run,
          congrArg (_ :: ·) same⟩

end Sample

namespace Archive
open Sample

theorem searchedItems_memory (prefetch : Bool) (e : Expr) (t0 t1 : Tick) (m : Memory) :
    ((⟨Memory.source, prefetch⟩ : Archive Memory).searchedItems e t0 t1 m).1 =
      ((e.course t0 t1).items Memory.source m).1 := by
  let items (p : Course Request Answer × Memory) : List Item := (p.1.items Memory.source p.2).1
  exact congrArg items (searchRanges_memory prefetch e t0 t1 m)

section Known
variable {m : Memory} {name : String} {series : List Sample}
  (known : m.samples? name = some series) {t0 t1 : Tick} (lt : t0 < t1)
include known lt

theorem items_variable :
    (((Expr.variable name).course t0 t1).items Memory.source m).1 =
      match current? t0 series with
      | none => [.error (.evaluation (.unknownVariable name t0))]
      | some anchor =>
          ((steps t1 t0 anchor.value
            (series.filter fun s => t0 < s.timestamp ∧ s.timestamp < t1)).items
              Memory.source m).1 := by
  have ordered := m.ordered_samples? known
  have answer : m.answer ⟨name, t0, t1⟩ = .ok (window series t0 t1) :=
    Memory.answer_of_known known
  rw [Expr.course, Expr.courseBy, if_pos lt]
  change ((Sample.course firstCut ⟨name, t0, t1⟩ (m.answer ⟨name, t0, t1⟩)).items
    Memory.source m).1 = _
  rw [answer, course_window name series lt, current?_eq ordered, takeWhile_after ordered]
  cases (upTo t0 series).getLast? <;> rfl

theorem inWindow_window :
    inWindow (window series t0 t1) t0 t1 =
      ((current? t0 series).map fun s => { s with timestamp := t0 }).toList ++
        series.filter fun s => t0 < s.timestamp ∧ s.timestamp < t1 := by
  have ordered := m.ordered_samples? known
  have cut := ordered_window ordered t0 t1
  obtain ⟨early, late⟩ := cut_window series lt
  rw [inWindow_eq cut lt, ← filter_after cut, early, late, takeWhile_after ordered,
    ← filter_after ordered t0 t1, List.filter_filter, current?_eq ordered]
  cases (upTo t0 series).getLast? <;> simp only [Bool.and_self] <;> rfl

end Known

/-- What is fetched without a condition is the anchor, moved to the start of the window, and all
samples inside. Without those that another one follows at the same tick, it shows where the
intervals of the variable start and with which values. If there is no anchor, the variable has no
intervals. -/
theorem fetch_none_steps (m : Memory) (prefetch : Bool) {name : String} {series : List Sample}
    (known : m.samples? name = some series) {t0 t1 : Tick} (lt : t0 < t1) :
    let a : Archive Memory := ⟨Memory.source, prefetch⟩
    let inside := series.filter fun s => t0 < s.timestamp ∧ s.timestamp < t1
    match current? t0 series with
    | none =>
        (a.fetch ⟨name, t0, t1⟩ none m).1 = .ok inside ∧
          (a.searchedItems (.variable name) t0 t1 m).1 =
            [.error (.evaluation (.unknownVariable name t0))]
    | some anchor =>
        let fetched := { anchor with timestamp := t0 } :: inside
        (a.fetch ⟨name, t0, t1⟩ none m).1 = .ok fetched ∧
          ∃ spans : List Interval,
            (a.searchedItems (.variable name) t0 t1 m).1 = spans.map .ok ∧
              spans.map (fun i => (i.start, i.value)) = (lasts fetched).map step := by
  intro a inside
  have fetched : (a.fetch ⟨name, t0, t1⟩ none m).1 = _ := fetch_none_memory prefetch known
  have searched := searchedItems_memory prefetch (.variable name) t0 t1 m
  rw [inWindow_window known lt] at fetched
  rw [items_variable known lt] at searched
  cases anchored : current? t0 series with
  | none =>
      rw [anchored] at fetched searched
      exact ⟨fetched, searched⟩
  | some anchor =>
      rw [anchored] at fetched searched
      have ordered : Ordered inside := (m.ordered_samples? known).sublist List.filter_sublist
      have between : ∀ s ∈ inside, t0 ≤ s.timestamp ∧ s.timestamp < t1 := by
        intro s hs
        obtain ⟨late, early⟩ := of_decide_eq_true (List.mem_filter.1 hs).2
        exact ⟨Int64.le_of_lt late, early⟩
      obtain ⟨spans, run, same⟩ := items_steps Memory.source m ordered anchor.value between
      exact ⟨fetched, spans, searched.trans run, same⟩

theorem fetch_none_steps_doubled :
    let series : List Sample :=
      [⟨-4, 1⟩, ⟨-4, 2⟩, ⟨0, 3⟩, ⟨0, 4⟩, ⟨5, 5⟩, ⟨5, 6⟩, ⟨7, 6⟩, ⟨10, 8⟩]
    let m := series.foldl (·.push "A" ·) Memory.empty
    let a : Archive Memory := ⟨Memory.source, true⟩
    let fetched : List Sample := [⟨0, 4⟩, ⟨5, 5⟩, ⟨5, 6⟩, ⟨7, 6⟩]
    (m.samples? "A" = some series ∧ (0 : Tick) < 10) ∧
      (a.fetch ⟨"A", 0, 10⟩ none m).1 = .ok fetched ∧
        ∃ spans : List Interval,
          (a.searchedItems (.variable "A") 0 10 m).1 = spans.map .ok ∧
            spans.map (fun i => (i.start, i.value)) =
              [(0, .number 4), (5, .number 6), (7, .number 6)] := by
  intro series m a fetched
  have known : m.samples? "A" = some series := rfl
  have lt : (0 : Tick) < 10 := by decide
  exact ⟨⟨known, lt⟩, fetch_none_steps m true known lt⟩

end Archive

end SpanQuery
