import SpanQuery.Proofs.Evaluation.Pointwise
import SpanQuery.Proofs.Sample.Slice

namespace SpanQuery

open Course

/-! ## Tilings -/

def Interval.bounds (i : Interval) : Tick × Tick :=
  (i.start, i.stop)

section Tilings
variable {start stop : Tick} {spans : List Interval}

theorem Tiles.pairwise_start (h : Tiles start stop spans) :
    (spans.map (·.start)).Pairwise (· < ·) := by
  induction spans generalizing start with
  | nil => exact .nil
  | cons i rest ih =>
      obtain ⟨rfl, lt, later⟩ := h
      refine List.pairwise_cons.2 ⟨fun t ht => ?_, ih later⟩
      obtain ⟨j, hj, rfl⟩ := List.mem_map.1 ht
      exact Int64.lt_of_lt_of_le lt (later.mem hj).1

theorem Tiles.stop_le {i j : Interval} {rest : List Interval} (hi : Tiles start stop (i :: spans))
    (hj : Tiles start stop (j :: rest))
    (starts : ∀ t ∈ spans.map (·.start), t ∈ (j :: rest).map (·.start)) : j.stop ≤ i.stop := by
  obtain ⟨rfl, lt, later⟩ := hi
  obtain ⟨first, -, later'⟩ := hj
  cases spans with
  | nil =>
      obtain rfl : i.stop = stop := later
      exact later'.le
  | cons next spans =>
      have mem := starts next.start (by simp)
      rw [later.1, List.map_cons, List.mem_cons] at mem
      rcases mem with same | mem
      · exact absurd (first ▸ same ▸ lt) Int64.lt_irrefl
      · obtain ⟨k, hk, same⟩ := List.mem_map.1 mem
        exact same ▸ (later'.mem hk).1

theorem Tiles.bounds_eq {spans' : List Interval} (h : Tiles start stop spans)
    (h' : Tiles start stop spans')
    (same : ∀ t, t ∈ spans.map (·.start) ↔ t ∈ spans'.map (·.start)) :
    spans.map (·.bounds) = spans'.map (·.bounds) := by
  induction spans generalizing start spans' with
  | nil =>
      cases spans' with
      | nil => rfl
      | cons j rest => simpa using same j.start
  | cons i rest ih =>
      cases spans' with
      | nil => simpa using same i.start
      | cons j rest' =>
          -- Where one of the first intervals ends, the other tiling starts an interval too.
          have stops : i.stop = j.stop := by
            refine Int64.le_antisymm (h'.stop_le h fun t ht => ?_) (h.stop_le h' fun t ht => ?_)
            · exact (same t).2 (List.mem_cons_of_mem _ ht)
            · exact (same t).1 (List.mem_cons_of_mem _ ht)
          have starts : i.start = j.start := h.1.trans h'.1.symm
          have apart := List.pairwise_cons.1 h.pairwise_start
          have apart' := List.pairwise_cons.1 h'.pairwise_start
          have tails : ∀ t, t ∈ rest.map (·.start) ↔ t ∈ rest'.map (·.start) := by
            intro t
            have whole := same t
            rw [List.map_cons, List.map_cons, List.mem_cons, List.mem_cons, starts] at whole
            by_cases first : t = j.start
            · subst first
              constructor <;> intro mem
              · exact absurd (starts ▸ apart.1 _ mem) Int64.lt_irrefl
              · exact absurd (apart'.1 _ mem) Int64.lt_irrefl
            · simpa [first] using whole
          have later' : Tiles i.stop stop rest' := stops ▸ h'.2.2
          rw [List.map_cons, List.map_cons, ih h.2.2 later' tails]
          simp only [Interval.bounds, starts, stops]

end Tilings

/-! ## Samples at ticks -/

def Memory.SampledAt (m : Memory) (names : List String) (t : Tick) : Prop :=
  ∃ name ∈ names, ∃ series, m.samples? name = some series ∧ ∃ s ∈ series, s.timestamp = t

theorem Memory.SampledAt.mono {m : Memory} {names more : List String} {t : Tick}
    (h : m.SampledAt names t) (le : names ⊆ more) : m.SampledAt more t := by
  obtain ⟨name, mem, sampled⟩ := h
  exact ⟨name, le mem, sampled⟩

theorem Memory.sampledAt_append {m : Memory} {names more : List String} {t : Tick} :
    m.SampledAt (names ++ more) t ↔ m.SampledAt names t ∨ m.SampledAt more t := by
  simp only [SampledAt, List.mem_append, or_and_right, exists_or]

theorem Memory.sampledAt_singleton {m : Memory} {name : String} {series : List Sample}
    (known : m.samples? name = some series) (t : Tick) :
    m.SampledAt [name] t ↔ ∃ s ∈ series, s.timestamp = t := by
  simp [SampledAt, known]

/-- An interval starts at `t0` or at a sample, and there is no sample inside it. -/
def Course.Contract.cutting (m : Memory) (names : List String) (t0 : Tick) :
    Contract Request Answer where
  asks _ _ _ := True
  answers q a := a = m.answer q
  gives i := (i.start = t0 ∨ m.SampledAt names i.start) ∧
    ∀ t, i.start < t → t < i.stop → ¬ m.SampledAt names t
  fails _ _ _ := True

theorem Course.Contract.cutting_served (m : Memory) (names : List String) (t0 : Tick) :
    (cutting m names t0).Served (· = m) Memory.source := by
  rintro start last q s - - rfl
  exact ⟨rfl, rfl⟩

theorem Course.Contract.cutting_passes {m : Memory} {names more : List String}
    {t0 t0' start stop : Tick} : (cutting m names t0).Passes (cutting m more t0') start stop :=
  ⟨fun _ _ _ => id, id, fun _ _ _ _ => trivial⟩

theorem Course.Contract.cutting_admits {m : Memory} {names : List String} {t0 : Tick}
    {i : Interval} (h : (cutting m names t0).gives i) (result : Except ValueFault Value) :
    (cutting m names t0).Admits i.start i.stop (i.withResult result) := by
  cases result with
  | ok v => exact ⟨rfl, rfl, h⟩
  | error fault => trivial

/-! ## Courses -/

theorem Sample.keeps_steps_cutting {m : Memory} {names : List String} {t0 : Tick}
    {samples : List Sample} (ordered : Ordered samples) {start stop : Tick} (lt : start < stop)
    (value : Float) (first : start = t0 ∨ m.SampledAt names start)
    (left : ∀ t, start < t → t < stop →
      (m.SampledAt names t ↔ ∃ s ∈ samples, s.timestamp = t)) :
    Keeps (.cutting m names t0) stop start (steps stop start value samples) := by
  induction samples generalizing start value with
  | nil =>
      refine .emit rfl lt Int64.le_rfl ⟨first, fun t ht hstop sampled => ?_⟩ .done
      simpa using (left t ht hstop).1 sampled
  | cons s later ih =>
      obtain ⟨before, ordered⟩ := List.pairwise_cons.1 ordered
      have beyond : ∀ t, s.timestamp < t → t < stop → start < t →
          (m.SampledAt names t ↔ ∃ u ∈ later, u.timestamp = t) := by
        intro t hs hstop ht
        have other : s.timestamp ≠ t := Int64.ne_of_lt hs
        simpa [other] using left t ht hstop
      have inside : ∀ t, start < t → t < stop → t < s.timestamp → ¬ m.SampledAt names t := by
        intro t ht hstop hs sampled
        obtain ⟨u, hu, rfl⟩ := (left t ht hstop).1 sampled
        rcases List.mem_cons.1 hu with rfl | hu
        · exact Int64.lt_irrefl hs
        · exact Int64.lt_irrefl (Int64.lt_of_lt_of_le hs (before u hu))
      unfold steps
      split
      · rename_i early
        split
        · rename_i past
          -- A sample that is not after the start only changes the value.
          refine ih ordered lt s.value first fun t ht hstop => ?_
          exact beyond t (Int64.lt_of_le_of_lt past ht) hstop ht
        · rename_i future
          have next : start < s.timestamp := Int64.not_le.1 future
          have sampled : m.SampledAt names s.timestamp :=
            (left _ next early).2 ⟨s, List.mem_cons_self, rfl⟩
          refine .emit rfl next (Int64.le_of_lt early) ⟨first, fun t ht hs => ?_⟩ ?_
          · exact inside t ht (Int64.lt_trans hs early) hs
          · exact ih ordered early s.value (.inr sampled) fun t ht hstop =>
              beyond t ht hstop (Int64.lt_trans next ht)
      · rename_i late
        refine .emit rfl lt Int64.le_rfl ⟨first, fun t ht hstop => ?_⟩ .done
        exact inside t ht hstop (Int64.lt_of_lt_of_le hstop (Int64.not_lt.1 late))

theorem Sample.keeps_course_cutting (m : Memory) (name : String) {t0 t1 : Tick} (lt : t0 < t1) :
    Keeps (.cutting m [name] t0) t1 t0
      (course firstCut ⟨name, t0, t1⟩ (m.answer ⟨name, t0, t1⟩)) := by
  cases known : m.samples? name with
  | none =>
      simp only [Memory.answer, known, course]
      exact .fail lt Int64.le_rfl trivial rfl
  | some series =>
      have ordered := m.ordered_samples? known
      have answer : m.answer ⟨name, t0, t1⟩ = .ok (window series t0 t1) :=
        Memory.answer_of_known known
      rw [answer, course_window name series lt]
      cases (upTo t0 series).getLast? with
      | none => exact .fail lt Int64.le_rfl trivial rfl
      | some anchor =>
          refine keeps_steps_cutting ?_ lt _ (.inl rfl) fun t ht hstop => ?_
          · exact (ordered.after t0).sublist (List.takeWhile_sublist _)
          · rw [m.sampledAt_singleton known, takeWhile_after ordered]
            constructor
            · rintro ⟨s, hs, rfl⟩
              exact ⟨s, List.mem_filter.2 ⟨hs, by simp [ht, hstop]⟩, rfl⟩
            · rintro ⟨s, hs, rfl⟩
              exact ⟨s, (List.mem_filter.1 hs).1, rfl⟩

theorem Expr.keeps_course_cutting (m : Memory) (e : Expr) {t0 t1 : Tick} (lt : t0 < t1) :
    Keeps (.cutting m e.occurrences t0) t1 t0 (e.course t0 t1) := by
  unfold course
  induction e using evaluationInduction generalizing t0 t1 with
  | literal value =>
      rw [courseBy, if_pos lt]
      refine .emit rfl lt Int64.le_rfl ⟨.inl rfl, ?_⟩ .done
      rintro t - - ⟨name, mem, -⟩
      cases mem
  | name name =>
      rw [courseBy, if_pos lt]
      refine .ask lt Int64.le_rfl trivial ?_
      rintro answer rfl
      exact Sample.keeps_course_cutting m name lt
  | unary op operand ih =>
      rw [courseBy, occurrences]
      exact (ih lt).mapItem Contract.cutting_passes fun i _ _ _ given =>
        Contract.cutting_admits given _
  | binary op left right ihl ihr =>
      rw [courseBy, occurrences]
      refine (ihl lt).flatMap Contract.cutting_passes fun i _ hi _ givenLeft => ?_
      refine (ihr hi).mapItem Contract.cutting_passes fun j le hj hstop givenRight => ?_
      obtain ⟨first, free⟩ := givenLeft
      obtain ⟨first', free'⟩ := givenRight
      refine Contract.cutting_admits ⟨?_, fun t ht hstop' sampled => ?_⟩ _
      · rcases first' with here | sampled
        · rw [here]
          exact first.imp_right fun sampled => sampled.mono (List.subset_append_left _ _)
        · exact .inr (sampled.mono (List.subset_append_right _ _))
      · rcases Memory.sampledAt_append.1 sampled with inLeft | inRight
        · exact free t (Int64.lt_of_le_of_lt le ht) (Int64.lt_of_lt_of_le hstop' hstop) inLeft
        · exact free' t ht hstop' inRight
  | call name args =>
      rw [courseBy, if_pos lt]
      exact .fail lt Int64.le_rfl trivial rfl

/-! ## Items -/

theorem Expr.tiles_of_items {m : Memory} {e : Expr} {t0 t1 : Tick} (lt : t0 < t1)
    {spans : List Interval}
    (faultless : ((e.course t0 t1).items Memory.source m).1 = spans.map .ok) :
    Tiles t0 t1 spans ∧ ∀ i ∈ spans, (Contract.cutting m e.occurrences t0).gives i :=
  (e.keeps_course_cutting m lt).tiles_of_items (Contract.cutting_served m _ _) rfl faultless

theorem Expr.mem_starts_iff {m : Memory} {e : Expr} {t0 t1 : Tick} (lt : t0 < t1)
    {spans : List Interval}
    (faultless : ((e.course t0 t1).items Memory.source m).1 = spans.map .ok) (t : Tick) :
    t ∈ spans.map (·.start) ↔ t = t0 ∨ t0 < t ∧ t < t1 ∧ m.SampledAt e.variableNames t := by
  obtain ⟨tiles, given⟩ := tiles_of_items lt faultless
  have names : m.SampledAt e.variableNames t ↔ m.SampledAt e.occurrences t := by
    simp only [Memory.SampledAt, variableNames, List.mem_eraseDups]
  rw [names]
  constructor
  · intro mem
    obtain ⟨i, hi, rfl⟩ := List.mem_map.1 mem
    obtain ⟨le, proper, le'⟩ := tiles.mem hi
    rcases (given i hi).1 with first | sampled
    · exact .inl first
    · rcases Int64.lt_or_eq_of_le le with later | first
      · exact .inr ⟨later, Int64.lt_of_lt_of_le proper le', sampled⟩
      · exact .inl first.symm
  · intro start
    have inside : t0 ≤ t ∧ t < t1 := by
      rcases start with rfl | ⟨later, before, -⟩
      · exact ⟨Int64.le_rfl, lt⟩
      · exact ⟨Int64.le_of_lt later, before⟩
    obtain ⟨i, hi, le, before⟩ := (tiles.exists_mem_iff t).2 inside
    rcases Int64.lt_or_eq_of_le le with after | here
    · -- A later tick of the interval would be no sample, and not the start of the window either.
      rcases start with rfl | ⟨-, -, sampled⟩
      · exact absurd after (Int64.not_lt.2 (tiles.mem hi).1)
      · exact absurd sampled ((given i hi).2 t after before)
    · exact List.mem_map.2 ⟨i, hi, here⟩

/-- Over a window in which an expression does not fail, its intervals start at the start of the
window and at the ticks inside at which one of its variables has a sample, once at each. So the cut
depends neither on the order of operands nor on how often a variable occurs. -/
theorem starts_of_items (m : Memory) (e : Expr) {t0 t1 : Tick} (lt : t0 < t1)
    {spans : List Interval}
    (faultless : ((e.course t0 t1).items Memory.source m).1 = spans.map .ok) :
    (spans.map (·.start)).Nodup ∧
    (∀ t, t ∈ spans.map (·.start) ↔
      t = t0 ∨ t0 < t ∧ t < t1 ∧ m.SampledAt e.variableNames t) ∧
    ∀ (e' : Expr) (spans' : List Interval),
      (∀ name, name ∈ e'.variableNames ↔ name ∈ e.variableNames) →
      ((e'.course t0 t1).items Memory.source m).1 = spans'.map .ok →
      spans'.map (·.bounds) = spans.map (·.bounds) := by
  have tiles := (e.tiles_of_items lt faultless).1
  refine ⟨tiles.pairwise_start.imp Int64.ne_of_lt, e.mem_starts_iff lt faultless, ?_⟩
  intro e' spans' names faultless'
  refine (e'.tiles_of_items lt faultless').1.bounds_eq tiles fun t => ?_
  rw [e'.mem_starts_iff lt faultless', e.mem_starts_iff lt faultless]
  simp only [Memory.SampledAt, names]

theorem starts_of_items_swapped :
    let m := ((((Memory.empty.push "A" ⟨0, 2⟩).push "A" ⟨3, 3⟩).push "A" ⟨3, 4⟩).push "A"
      ⟨10, 0⟩).push "B" ⟨-2, 1⟩ |>.push "B" ⟨5, 6⟩
    let e := Expr.binary .sub (.variable "A") (.variable "B")
    let e' := Expr.binary .sub (.variable "B") (.binary .add (.variable "A") (.variable "B"))
    let spans : List Interval :=
      [⟨0, 3, .number (2 - 1)⟩, ⟨3, 5, .number (4 - 1)⟩, ⟨5, 10, .number (4 - 6)⟩]
    let spans' : List Interval :=
      [⟨0, 3, .number (1 - (2 + 1))⟩, ⟨3, 5, .number (1 - (4 + 1))⟩,
        ⟨5, 10, .number (6 - (4 + 6))⟩]
    ((0 : Tick) < 10 ∧ ((e.course 0 10).items Memory.source m).1 = spans.map .ok ∧
      (∀ name, name ∈ e'.variableNames ↔ name ∈ e.variableNames) ∧
      ((e'.course 0 10).items Memory.source m).1 = spans'.map .ok) ∧
    (∀ t, t ∈ spans.map (·.start) ↔
      t = 0 ∨ 0 < t ∧ t < 10 ∧ m.SampledAt e.variableNames t) ∧
    spans'.map (·.bounds) = spans.map (·.bounds) := by
  intro m e e' spans spans'
  have lt : (0 : Tick) < 10 := by decide
  have faultless : ((e.course 0 10).items Memory.source m).1 = spans.map .ok := rfl
  have faultless' : ((e'.course 0 10).items Memory.source m).1 = spans'.map .ok := rfl
  have names : ∀ name, name ∈ e'.variableNames ↔ name ∈ e.variableNames := by
    intro name
    simp only [e, e', Expr.variableNames, List.mem_eraseDups, Expr.occurrences, List.mem_append]
    grind
  have cut := starts_of_items m e lt faultless
  exact ⟨⟨lt, faultless, names, faultless'⟩, cut.2.1, cut.2.2 e' spans' names faultless'⟩

end SpanQuery
