import SpanQuery.Evaluation
import SpanQuery.Proofs.Course.Contract
import SpanQuery.Source

namespace SpanQuery

open Course

/-! ## Contracts without assumptions on answers -/

def Course.Contract.within (names : List String) : Contract Request Answer where
  asks start last q := q.name ∈ names ∧ q.t0 = start ∧ q.t1 = last
  answers _ _ := True
  gives _ := True
  fails _ _ _ := True

theorem Course.Contract.within_passes {names more : List String} (h : names ⊆ more)
    (start stop : Tick) : (within names).Passes (within more) start stop :=
  ⟨fun _ _ _ ⟨name, window⟩ => ⟨h name, window⟩, id, fun _ _ _ => id⟩

theorem Course.Contract.within_admits (names : List String) (i : Interval)
    (result : Except ValueFault Value) :
    (within names).Admits i.start i.stop (i.withResult result) := by
  cases result with
  | ok value => exact ⟨rfl, rfl, trivial⟩
  | error fault => trivial

theorem Course.Contract.within_served (names : List String) (source : Source σ) :
    (within names).Served (fun _ => True) source :=
  fun _ _ _ _ _ _ _ => ⟨trivial, trivial⟩

/-! ## Courses -/

theorem Sample.keeps_steps {k : Contract ρ α} (gives : ∀ a b v, k.gives ⟨a, b, .number v⟩)
    (samples : List Sample) {start stop : Tick} (lt : start < stop) (value : Float) :
    Keeps k stop start (steps stop start value samples) := by
  induction samples generalizing start value with
  | nil => exact .emit rfl lt Int64.le_rfl (gives _ _ _) .done
  | cons s later ih =>
      unfold steps
      split
      · rename_i before
        split
        · exact ih lt s.value
        · rename_i after
          exact .emit rfl (Int64.not_le.1 after) (Int64.le_of_lt before) (gives _ _ _)
            (ih before s.value)
      · exact .emit rfl lt Int64.le_rfl (gives _ _ _) .done

theorem Sample.keeps_course {k : Contract ρ α} (gives : ∀ a b v, k.gives ⟨a, b, .number v⟩)
    (cut : Cut) {r : Request} (lt : r.t0 < r.t1)
    (fetching : ∀ e, k.fails r.t0 r.t1 (.fetch e))
    (anchorless : k.fails r.t0 r.t1 (.evaluation (.unknownVariable r.name r.t0)))
    (answer : Answer) : Keeps k r.t1 r.t0 (course cut r answer) := by
  cases answer with
  | error e => exact .fail lt Int64.le_rfl (fetching e) rfl
  | ok samples =>
      simp only [course]
      split
      · exact .fail lt Int64.le_rfl anchorless rfl
      · exact keeps_steps gives _ lt _

theorem Expr.courseBy_of_le (cut : Sample.Cut) (e : Expr) {t0 t1 : Tick} (h : t1 ≤ t0) :
    e.courseBy cut t0 t1 = .done := by
  have empty : ¬ t0 < t1 := Int64.not_lt.2 h
  induction e using evaluationInduction with
  | literal value => rw [courseBy, if_neg empty]
  | name name => rw [courseBy, if_neg empty]
  | unary op operand ih => rw [courseBy, ih]; rfl
  | binary op left right ihl _ => rw [courseBy, ihl]; rfl
  | call name args => rw [courseBy, if_neg empty]

theorem Expr.keeps_courseBy (cut : Sample.Cut) (e : Expr) {t0 t1 : Tick} (lt : t0 < t1) :
    Keeps (.within e.occurrences) t1 t0 (e.courseBy cut t0 t1) := by
  induction e using evaluationInduction generalizing t0 t1 with
  | literal value =>
      rw [courseBy, if_pos lt]
      exact .emit rfl lt Int64.le_rfl trivial .done
  | name name =>
      rw [courseBy, if_pos lt]
      refine .ask lt Int64.le_rfl ⟨?_, rfl, rfl⟩ fun answer _ =>
        Sample.keeps_course (r := ⟨name, t0, t1⟩) (fun _ _ _ => trivial) cut lt (fun _ => trivial)
          trivial answer
      simp [occurrences]
  | unary op operand ih =>
      rw [courseBy, occurrences]
      refine (ih lt).mapItem (.refl _ _ _) ?_
      exact fun i _ _ _ _ => Contract.within_admits _ i _
  | binary op left right ihl ihr =>
      rw [courseBy, occurrences]
      refine (ihl lt).flatMap (Contract.within_passes (List.subset_append_left _ _) _ _) ?_
      intro i _ hi _ _
      refine (ihr hi).mapItem (Contract.within_passes (List.subset_append_right _ _) _ _) ?_
      exact fun j _ _ _ _ => Contract.within_admits _ j _
  | call name args =>
      rw [courseBy, if_pos lt]
      exact .fail lt Int64.le_rfl trivial rfl

/-! ## Items -/

/-- Items that cover the window from `t0` up to `t1` without a gap, or up to an error. -/
structure Covers (t0 t1 : Tick) (items : List Item) : Prop where
  empty : t1 ≤ t0 → items = []
  first : t0 < t1 → ∃ item, items.head? = some item ∧ ∀ i, item = .ok i → i.start = t0
  nonempty : ∀ i, .ok i ∈ items → i.start < i.stop
  touching : ∀ n i j, items[n]? = some (.ok i) → items[n + 1]? = some (.ok j) → j.start = i.stop
  inside : ∀ i, .ok i ∈ items → i.stop ≤ t1
  error_last : ∀ n e, items[n]? = some (.error e) → n + 1 = items.length
  whole : t0 < t1 → (∀ e, .error e ∉ items) → ∃ i, items.getLast? = some (.ok i) ∧ i.stop = t1

theorem getElem?_spans {k : Contract ρ α} {reach stop : Tick} {ending : List Item}
    (ends : k.Ends reach stop ending) {spans : List Interval} {n : Nat} {i : Interval}
    (h : (spans.map .ok ++ ending)[n]? = some (.ok i)) : spans[n]? = some i := by
  rw [List.getElem?_append] at h
  split at h
  · simpa using h
  · exact absurd (List.mem_of_getElem? h) (ends.not_ok i)

theorem covers_of_tiles {k : Contract ρ α} {t0 t1 reach : Tick} {spans : List Interval}
    {ending : List Item} (tiles : Tiles t0 reach spans) (le : reach ≤ t1)
    (ends : k.Ends reach t1 ending) (lt : t0 < t1) : Covers t0 t1 (spans.map .ok ++ ending) where
  empty h := absurd lt (Int64.not_lt.2 h)
  first _ := by
    cases spans with
    | cons i rest => exact ⟨.ok i, rfl, fun j h => by cases h; exact tiles.1⟩
    | nil =>
        obtain rfl : t0 = reach := tiles
        rcases ends with ⟨-, rfl⟩ | ⟨e, last, rfl, -⟩
        · exact absurd lt Int64.lt_irrefl
        · exact ⟨.error e, rfl, nofun⟩
  nonempty i hi := by
    obtain ⟨n, hn⟩ := List.mem_iff_getElem?.1 hi
    exact (tiles.mem (List.mem_of_getElem? (getElem?_spans ends hn))).2.1
  touching n i j hi hj := tiles.touching (getElem?_spans ends hi) (getElem?_spans ends hj)
  inside i hi := by
    obtain ⟨n, hn⟩ := List.mem_iff_getElem?.1 hi
    exact Int64.le_trans (tiles.mem (List.mem_of_getElem? (getElem?_spans ends hn))).2.2 le
  error_last n e h := by
    rw [List.getElem?_append] at h
    split at h
    · simp at h
    · rename_i behind
      rcases ends with ⟨rfl, -⟩ | ⟨e', last, rfl, -⟩
      · cases h
      · have within := (List.getElem?_eq_some_iff.1 h).1
        simp only [List.length_map, List.length_append, List.length_singleton] at behind within ⊢
        omega
  whole _ h := by
    rcases ends with ⟨rfl, rfl⟩ | ⟨e, last, rfl, -⟩
    · obtain ⟨i, last, here⟩ := tiles.getLast? lt
      exact ⟨i, by simp [last], here⟩
    · exact absurd (List.mem_append_right _ List.mem_cons_self) (h e)

/-- Against any source, pulled any number of times, an expression gives items that cover the
window, and nothing after them. -/
theorem pulls_cover (cut : Sample.Cut) (e : Expr) (source : Source σ) (s : σ) (t0 t1 : Tick) :
    ∃ items : List Item, Covers t0 t1 items ∧
      ∀ n, (pulls source n (e.courseBy cut t0 t1) s).1 = (List.range n).map (items[·]?) := by
  refine ⟨((e.courseBy cut t0 t1).items source s).1, ?_, fun n => pulls_eq source n _ s⟩
  by_cases lt : t0 < t1
  · obtain ⟨reach, spans, ending, run, tiles, inside, -, ends⟩ :=
      (e.keeps_courseBy cut lt).items (Contract.within_served _ source) trivial
    rw [run]
    exact covers_of_tiles tiles inside ends lt
  · rw [e.courseBy_of_le cut (Int64.not_lt.1 lt)]
    exact ⟨fun _ => rfl, fun h => absurd h lt, nofun, nofun, nofun, nofun, fun h => absurd h lt⟩

end SpanQuery
