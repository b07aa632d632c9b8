import SpanQuery.Proofs.Sample.Window

/-!
# Slices of slices

A window of a series is a slice by time: the last element that is not after the start, and all
between start and stop. A slice of a slice is a slice of the whole, also where several elements stand
at one time, where nothing stands before the start, and where the anchor lies before both slices.
-/

namespace SpanQuery

/-- The last element whose key is not beyond `start`, and those with a key between `start` and
`stop`. -/
def slice (key : α → Int) (start stop : Int) (xs : List α) : List α :=
  (xs.filter (key · ≤ start)).getLast?.toList ++ xs.filter fun x => start < key x ∧ key x < stop

theorem takeWhile_eq_filter {p : α → Bool} {xs : List α} (h : xs.Pairwise fun x y => p y → p x) :
    xs.takeWhile p = xs.filter p ∧ xs.dropWhile p = xs.filter (!p ·) := by
  induction xs with
  | nil => exact ⟨rfl, rfl⟩
  | cons x rest ih =>
      obtain ⟨first, h⟩ := List.pairwise_cons.1 h
      cases within : p x with
      | true =>
          obtain ⟨take, drop⟩ := ih h
          simp [within, take, drop]
      | false =>
          have beyond : ∀ y ∈ rest, p y = false := fun y hy =>
            Bool.eq_false_iff.2 fun hp => Bool.eq_false_iff.1 within (first y hy hp)
          have none : rest.filter p = [] := List.filter_eq_nil_iff.2 (by simpa using beyond)
          have all : rest.filter (!p ·) = rest := List.filter_eq_self.2 (by simpa using beyond)
          simp [within, none, all]

section Ordered
variable {key : α → Int} {xs : List α}

theorem takeWhile_le (ordered : xs.Pairwise (key · ≤ key ·)) (bound : Int) :
    xs.takeWhile (key · ≤ bound) = xs.filter (key · ≤ bound) ∧
      xs.dropWhile (key · ≤ bound) = xs.filter (bound < key ·) := by
  have cut := takeWhile_eq_filter (p := (key · ≤ bound)) <| ordered.imp fun le h => by
    simpa using Int.le_trans le (of_decide_eq_true h)
  simpa only [← decide_not, Int.not_le] using cut

theorem takeWhile_lt (ordered : xs.Pairwise (key · ≤ key ·)) (bound : Int) :
    xs.takeWhile (key · < bound) = xs.filter (key · < bound) := by
  have cut := takeWhile_eq_filter (p := (key · < bound)) <| ordered.imp fun le h => by
    simpa using Int.lt_of_le_of_lt le (of_decide_eq_true h)
  exact cut.1

theorem slice_slice (ordered : xs.Pairwise (key · ≤ key ·)) {start stop start' stop' : Int}
    (le : start ≤ start') (lt : start' < stop') (le' : stop' ≤ stop) :
    slice key start' stop' (slice key start stop xs) = slice key start' stop' xs := by
  let early := xs.filter (key · ≤ start)
  let between := xs.filter fun x => start < key x ∧ key x ≤ start'
  have anchor_le : ∀ x ∈ early.getLast?.toList, key x ≤ start := by
    intro x hx
    simpa using (List.mem_filter.1 (List.mem_of_getLast? (Option.mem_toList.1 hx))).2
  have not_after : xs.filter (key · ≤ start') = early ++ between := by
    obtain ⟨take, drop⟩ := takeWhile_le ordered start
    rw [← List.takeWhile_append_dropWhile (p := (key · ≤ start)) (l := xs), take, drop,
      List.filter_append, List.filter_filter, List.filter_filter]
    congr 2 <;> funext x <;> grind
  have anchors : (slice key start stop xs).filter (key · ≤ start') =
      early.getLast?.toList ++ between := by
    rw [slice, List.filter_append, List.filter_eq_self.2, List.filter_filter]
    · congr 2
      funext x
      grind
    · intro x hx
      simpa using Int.le_trans (anchor_le x hx) le
  have inside : (slice key start stop xs).filter (fun x => start' < key x ∧ key x < stop') =
      xs.filter fun x => start' < key x ∧ key x < stop' := by
    rw [slice, List.filter_append, List.filter_eq_nil_iff.2, List.filter_filter, List.nil_append]
    · congr 1
      funext x
      grind
    · intro x hx
      have := anchor_le x hx
      grind
  -- If nothing lies between the starts, the anchor of the first slice is that of the second.
  rw [slice, anchors, inside, slice, not_after, List.getLast?_append, List.getLast?_append]
  cases early.getLast? <;> rfl

theorem slice_eq_takeWhile (ordered : xs.Pairwise (key · ≤ key ·)) (start stop : Int) :
    (xs.takeWhile (key · ≤ start)).getLast?.toList ++
        (xs.dropWhile (key · ≤ start)).takeWhile (key · < stop) =
      slice key start stop xs := by
  obtain ⟨take, drop⟩ := takeWhile_le ordered start
  rw [slice, take, drop, takeWhile_lt (ordered.sublist List.filter_sublist), List.filter_filter]
  congr 2
  funext x
  grind

theorem slice_sublist (ordered : xs.Pairwise (key · ≤ key ·)) (start stop : Int) :
    (slice key start stop xs).Sublist xs := by
  have anchor : (xs.takeWhile (key · ≤ start)).getLast?.toList.Sublist
      (xs.takeWhile (key · ≤ start)) := by
    cases last : (xs.takeWhile (key · ≤ start)).getLast? with
    | none => exact List.nil_sublist _
    | some x => exact List.singleton_sublist.2 (List.mem_of_getLast? last)
  have whole := anchor.append (List.takeWhile_sublist (key · < stop)
    (l := xs.dropWhile (key · ≤ start)))
  rwa [slice_eq_takeWhile ordered, List.takeWhile_append_dropWhile] at whole

end Ordered

/-! ## Converted elements -/

section Converted
variable {f : α → Except ε β} {xs : List α} {ys : List β}

theorem exists_of_mapM_cons {x : α} (h : (x :: xs).mapM f = .ok ys) :
    ∃ y zs, ys = y :: zs ∧ f x = .ok y ∧ xs.mapM f = .ok zs := by
  rw [List.mapM_cons] at h
  cases first : f x with
  | error e => simp [first, bind, Except.bind] at h
  | ok y =>
      cases later : xs.mapM f with
      | error e => simp [first, later, bind, Except.bind] at h
      | ok zs =>
          rw [first, later] at h
          exact ⟨y, zs, (Except.ok.inj h).symm, rfl, rfl⟩

theorem mapM_cons_of {x : α} {y : β} (first : f x = .ok y) (later : xs.mapM f = .ok ys) :
    (x :: xs).mapM f = .ok (y :: ys) := by
  rw [List.mapM_cons, first, later]
  rfl

theorem exists_mem_of_mapM (h : xs.mapM f = .ok ys) {y : β} (hy : y ∈ ys) :
    ∃ x ∈ xs, f x = .ok y := by
  induction xs generalizing ys with
  | nil =>
      cases h
      cases hy
  | cons x rest ih =>
      obtain ⟨z, zs, rfl, first, later⟩ := exists_of_mapM_cons h
      rcases List.mem_cons.1 hy with rfl | hy
      · exact ⟨x, List.mem_cons_self, first⟩
      · obtain ⟨x', hx', here⟩ := ih later hy
        exact ⟨x', List.mem_cons_of_mem _ hx', here⟩

theorem pairwise_of_mapM {R : α → α → Prop} {S : β → β → Prop} (related : xs.Pairwise R)
    (imp : ∀ x ∈ xs, ∀ x' ∈ xs, ∀ y y', f x = .ok y → f x' = .ok y' → R x x' → S y y')
    (h : xs.mapM f = .ok ys) : ys.Pairwise S := by
  induction xs generalizing ys with
  | nil =>
      cases h
      exact .nil
  | cons x rest ih =>
      obtain ⟨y, zs, rfl, first, later⟩ := exists_of_mapM_cons h
      obtain ⟨head, related⟩ := List.pairwise_cons.1 related
      refine List.pairwise_cons.2 ⟨fun z hz => ?_, ih related ?_ later⟩
      · obtain ⟨x', hx', here⟩ := exists_mem_of_mapM later hz
        exact imp x List.mem_cons_self x' (List.mem_cons_of_mem _ hx') y z first here (head x' hx')
      · intro a ha b hb
        exact imp a (List.mem_cons_of_mem _ ha) b (List.mem_cons_of_mem _ hb)

theorem mapM_filter {p : α → Bool} {q : β → Bool}
    (same : ∀ x ∈ xs, ∀ y, f x = .ok y → p x = q y) (h : xs.mapM f = .ok ys) :
    (xs.filter p).mapM f = .ok (ys.filter q) := by
  induction xs generalizing ys with
  | nil =>
      cases h
      rfl
  | cons x rest ih =>
      obtain ⟨y, zs, rfl, first, later⟩ := exists_of_mapM_cons h
      have rest_eq := ih (fun x' hx' => same x' (List.mem_cons_of_mem _ hx')) later
      rw [List.filter_cons, List.filter_cons, same x List.mem_cons_self y first]
      split
      · exact mapM_cons_of first rest_eq
      · exact rest_eq

theorem mapM_getLast? (h : xs.mapM f = .ok ys) :
    xs.getLast?.toList.mapM f = .ok ys.getLast?.toList := by
  induction xs generalizing ys with
  | nil =>
      cases h
      rfl
  | cons x rest ih =>
      obtain ⟨y, zs, rfl, first, later⟩ := exists_of_mapM_cons h
      cases rest with
      | nil =>
          cases later
          exact mapM_cons_of first rfl
      | cons x' rest =>
          obtain ⟨y', zs', rfl, -, -⟩ := exists_of_mapM_cons later
          rw [List.getLast?_cons_cons, List.getLast?_cons_cons]
          exact ih later

theorem mapM_slice (key : α → Int) (key' : β → Int) {scale : Int → Int}
    (mono : ∀ m n, scale m ≤ scale n ↔ m ≤ n)
    (scaled : ∀ x ∈ xs, ∀ y, f x = .ok y → key x = scale (key' y)) (h : xs.mapM f = .ok ys)
    (start stop : Int) :
    (slice key (scale start) (scale stop) xs).mapM f = .ok (slice key' start stop ys) := by
  have strict : ∀ m n, scale m < scale n ↔ m < n := fun m n => by
    rw [← Int.not_le, ← Int.not_le, mono]
  have anchor := mapM_getLast? (mapM_filter (p := (key · ≤ scale start)) (q := (key' · ≤ start))
    (fun x hx y hxy => by simp only [scaled x hx y hxy, mono]) h)
  have inside := mapM_filter (p := fun x => scale start < key x ∧ key x < scale stop)
    (q := fun y => start < key' y ∧ key' y < stop)
    (fun x hx y hxy => by simp only [scaled x hx y hxy, strict]) h
  rw [slice, List.mapM_append, anchor, inside]
  rfl

end Converted

/-! ## Windows -/

namespace Sample

theorem Ordered.toInt {samples : List Sample} (h : Ordered samples) :
    samples.Pairwise (·.timestamp.toInt ≤ ·.timestamp.toInt) :=
  h.imp Int64.le_iff_toInt_le.1

theorem window_eq_slice {samples : List Sample} (ordered : Ordered samples) {t0 t1 : Tick}
    (lt : t0 < t1) :
    window samples t0 t1 = slice (·.timestamp.toInt) t0.toInt t1.toInt samples := by
  rw [window_eq samples lt, ← slice_eq_takeWhile ordered.toInt]
  simp only [upTo, after, Int64.le_iff_toInt_le, Int64.lt_iff_toInt_lt]

theorem Ordered.upTo_eq {samples : List Sample} (ordered : Ordered samples) (t : Tick) :
    upTo t samples = samples.filter (·.timestamp ≤ t) ∧
      Sample.after t samples = samples.filter (t < ·.timestamp) := by
  have cut := takeWhile_eq_filter (p := (decide <| ·.timestamp ≤ t)) <| ordered.imp fun le h => by
    simpa using Int64.le_trans le (of_decide_eq_true h)
  simpa only [upTo, Sample.after, ← decide_not, Int64.not_le] using cut

theorem Ordered.takeWhile_lt {samples : List Sample} (ordered : Ordered samples) (t : Tick) :
    samples.takeWhile (·.timestamp < t) = samples.filter (·.timestamp < t) ∧
      samples.dropWhile (·.timestamp < t) = samples.filter (t ≤ ·.timestamp) := by
  have cut := takeWhile_eq_filter (p := (decide <| ·.timestamp < t)) <| ordered.imp fun le h => by
    simpa using Int64.lt_of_le_of_lt le (of_decide_eq_true h)
  simpa only [← decide_not, Int64.not_lt] using cut

theorem filter_after {samples : List Sample} (ordered : Ordered samples) (t0 t1 : Tick) :
    (after t0 samples).filter (·.timestamp < t1) =
      samples.filter fun s => t0 < s.timestamp ∧ s.timestamp < t1 := by
  rw [(ordered.upTo_eq t0).2, List.filter_filter]
  congr 1
  funext s
  simp only [Bool.decide_and, Bool.and_comm]

theorem takeWhile_after {samples : List Sample} (ordered : Ordered samples) (t0 t1 : Tick) :
    (after t0 samples).takeWhile (·.timestamp < t1) =
      samples.filter fun s => t0 < s.timestamp ∧ s.timestamp < t1 := by
  rw [((ordered.after t0).takeWhile_lt t1).1, filter_after ordered]

theorem window_window {samples : List Sample} (ordered : Ordered samples) {t0 t1 u0 u1 : Tick}
    (le : t0 ≤ u0) (lt : u0 < u1) (le' : u1 ≤ t1) :
    window (window samples t0 t1) u0 u1 = window samples u0 u1 := by
  have outer : t0 < t1 := Int64.lt_of_le_of_lt le (Int64.lt_of_lt_of_le lt le')
  rw [window_eq_slice (ordered_window ordered t0 t1) lt, window_eq_slice ordered lt,
    window_eq_slice ordered outer]
  exact slice_slice ordered.toInt (Int64.le_iff_toInt_le.1 le) (Int64.lt_iff_toInt_lt.1 lt)
    (Int64.le_iff_toInt_le.1 le')

end Sample

end SpanQuery
