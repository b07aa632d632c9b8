import SpanQuery.Memory
import SpanQuery.Proofs.Cache.Transparency
import SpanQuery.Proofs.Database.Selection

namespace SpanQuery

namespace Cell

theorem number?_of_toTick {c : Cell} {t : Tick} (h : c.toTick = .ok t) :
    c.number? = some (units t.toInt) := by
  cases c with
  | integer n =>
      cases h
      rfl
  | null | real | text | blob => cases h

end Cell

theorem Reading.of_toSample {r : Reading} {s : Sample} (h : r.toSample = .ok s) :
    r.time.toTick = .ok s.timestamp ∧ r.value.toReal = .ok s.value := by
  rw [toSample] at h
  cases time : r.time.toTick with
  | error e =>
      rw [time] at h
      cases h
  | ok t =>
      cases value : r.value.toReal with
      | error e =>
          rw [time, value] at h
          cases h
      | ok x =>
          rw [time, value] at h
          obtain rfl := Except.ok.inj h
          exact ⟨rfl, rfl⟩

def Reading.ofSample (s : Sample) : Reading :=
  ⟨.integer s.timestamp, .real s.value⟩

namespace Database

/-! ## Readings in their order -/

theorem ordered_timed (rows : List Reading) : (timed rows).Pairwise (·.time ≤ ·.time) := by
  refine (pairwise_select _ _).imp_of_mem fun {a b} ha hb le => ?_
  have known : ∀ r ∈ timed rows, r.timed := fun r hr =>
    (List.mem_filter.1 ((perm_select ..).mem_iff.1 hr)).2
  rcases (Row.earliestFirst_isLE_iff (known a ha) (known b hb)).1 le with lt | ⟨eq, -⟩
  · exact Int.le_of_lt lt
  · exact Int.le_of_eq eq

theorem time_of_mem_timed {rows : List Reading} {r : Row} (h : r ∈ timed rows) :
    r.reading.time.number? = some r.time :=
  Row.number?_of_timed (List.mem_filter.1 ((perm_select ..).mem_iff.1 h)).2

theorem reading_of_mem_timed {rows : List Reading} {r : Row} (h : r ∈ timed rows) :
    r.reading ∈ rows := by
  have mem := (List.mem_filter.1 ((perm_select ..).mem_iff.1 h)).1
  obtain ⟨⟨reading, n⟩, place, rfl⟩ := List.mem_map.1 mem
  exact List.fst_mem_of_mem_zipIdx place

theorem time_of_toSample {rows : List Reading} {r : Row} (h : r ∈ timed rows) {s : Sample}
    (sample : r.reading.toSample = .ok s) : r.time = Cell.units s.timestamp.toInt := by
  have time := (Reading.of_toSample sample).1
  exact Option.some.inj ((time_of_mem_timed h).symm.trans (Cell.number?_of_toTick time))

theorem samples_eq_slice (rows : List Reading) (t0 t1 : Tick) :
    samples rows t0 t1 =
      (slice Row.time (Cell.units t0.toInt) (Cell.units t1.toInt) (timed rows)).mapM
        (·.reading.toSample) := by
  rw [samples, selected_eq_slice]

theorem of_samples {rows : List Reading} {t0 t1 : Tick} {answered : List Sample}
    (h : samples rows t0 t1 = .ok answered) :
    Sample.Ordered answered ∧ ∀ s ∈ answered, ∃ r ∈ rows, r.toSample = .ok s := by
  rw [samples_eq_slice] at h
  have part := slice_sublist (ordered_timed rows) (Cell.units t0.toInt) (Cell.units t1.toInt)
  constructor
  · refine pairwise_of_mapM ((ordered_timed rows).sublist part) ?_ h
    intro r hr r' hr' s s' sample sample' before
    rw [time_of_toSample (part.mem hr) sample, time_of_toSample (part.mem hr') sample',
      Cell.units_le_units] at before
    exact Int64.le_iff_toInt_le.2 before
  · intro s hs
    obtain ⟨r, hr, sample⟩ := exists_mem_of_mapM h hs
    exact ⟨r.reading, reading_of_mem_timed (part.mem hr), sample⟩

theorem samples_of_samples {rows : List Reading} {t0 t1 u0 u1 : Tick} (le : t0 ≤ u0) (lt : u0 < u1)
    (le' : u1 ≤ t1) {answered : List Sample} (h : samples rows t0 t1 = .ok answered) :
    samples rows u0 u1 = .ok (Sample.window answered u0 u1) := by
  have ordered := (of_samples h).1
  rw [samples_eq_slice] at h ⊢
  let cut := slice Row.time (Cell.units t0.toInt) (Cell.units t1.toInt) (timed rows)
  have part : cut.Sublist (timed rows) := slice_sublist (ordered_timed rows) _ _
  have scaled : ∀ r ∈ cut, ∀ s, r.reading.toSample = .ok s →
      r.time = Cell.units s.timestamp.toInt := fun r hr s => time_of_toSample (part.mem hr)
  have inner := mapM_slice Row.time (·.timestamp.toInt) Cell.units_le_units scaled h
    u0.toInt u1.toInt
  have strict : ∀ m n : Int, m < n → Cell.units m < Cell.units n := fun m n h => by
    rw [← Int.not_le, Cell.units_le_units]
    exact Int.not_le.2 h
  rw [Sample.window_eq_slice ordered lt, ← inner]
  refine congrArg _ (slice_slice (ordered_timed rows) ?_ ?_ ?_).symm
  · exact (Cell.units_le_units _ _).2 (Int64.le_iff_toInt_le.1 le)
  · exact strict _ _ (Int64.lt_iff_toInt_lt.1 lt)
  · exact (Cell.units_le_units _ _).2 (Int64.le_iff_toInt_le.1 le')

/-! ## Recorded samples -/

theorem timed_ofSample (samples : List Sample) :
    (timed (samples.map Reading.ofSample)).mapM (·.reading.toSample) =
      .ok (Sample.sort samples) := by
  let row (p : Sample × Nat) : Row := ⟨p.2 + 1, Reading.ofSample p.1⟩
  have rows : (numbered (samples.map Reading.ofSample)).filter Row.timed =
      samples.zipIdx.map row := by
    rw [numbered, List.zipIdx_map, List.map_map]
    refine List.filter_eq_self.2 fun r hr => ?_
    obtain ⟨p, -, rfl⟩ := List.mem_map.1 hr
    rfl
  -- Rows are numbered as the samples come, so comparing numbers is what makes a sort stable.
  have order : ∀ p ∈ samples.zipIdx, ∀ q ∈ samples.zipIdx,
      List.zipIdxLE (fun a b => decide (a.timestamp ≤ b.timestamp)) p q =
        (Row.earliestFirst (row p) (row q)).isLE := by
    intro p _ q _
    have time : ∀ p, (row p).time = Cell.units p.1.timestamp.toInt := fun _ => rfl
    have number : ∀ p, (row p).number = p.2 + 1 := fun _ => rfl
    have le := Cell.units_le_units p.1.timestamp.toInt q.1.timestamp.toInt
    have ge := Cell.units_le_units q.1.timestamp.toInt p.1.timestamp.toInt
    rw [Bool.eq_iff_iff, Row.earliestFirst_isLE_iff rfl rfl, time, time, number, number,
      List.zipIdxLE]
    simp only [decide_eq_true_eq, Int64.le_iff_toInt_le]
    by_cases first : p.1.timestamp.toInt ≤ q.1.timestamp.toInt
    · by_cases second : q.1.timestamp.toInt ≤ p.1.timestamp.toInt
      · rw [if_pos first, if_pos second, decide_eq_true_iff]
        omega
      · rw [if_pos first, if_neg second, eq_self, true_iff]
        omega
    · rw [if_neg first, Bool.false_eq_true, false_iff]
      omega
  rw [timed, select, rows, ← List.map_mergeSort order, List.mapM_map]
  change List.mapM (fun p : Sample × Nat => pure p.1) _ = _
  rw [List.mapM_pure, List.mergeSort_zipIdx]
  rfl

theorem samples_ofSample (samples : List Sample) {t0 t1 : Tick} (lt : t0 < t1) :
    Database.samples (samples.map Reading.ofSample) t0 t1 =
      .ok (Sample.window (Sample.sort samples) t0 t1) := by
  rw [samples_eq_slice, Sample.window_eq_slice (Sample.ordered_sort samples) lt]
  exact mapM_slice Row.time (·.timestamp.toInt) Cell.units_le_units
    (fun r hr s => time_of_toSample hr) (timed_ofSample samples) t0.toInt t1.toInt

/-! ## Answers -/

def reply (db : Database) (r : Request) : Answer := do
  let d ← db.descriptor r.name
  match db.readings? d.id with
  | none => .error .database
  | some rows => samples rows r.t0 r.t1

theorem reply_of_readings {db : Database} {r : Request} {d : Descriptor} {rows : List Reading}
    (found : db.descriptor r.name = .ok d) (table : db.readings? d.id = some rows) :
    db.reply r = samples rows r.t0 r.t1 := by
  unfold reply
  rw [found]
  dsimp only [bind, Except.bind]
  rw [table]

theorem exists_of_reply {db : Database} {r : Request} {answered : List Sample}
    (h : db.reply r = .ok answered) :
    ∃ d rows, db.descriptor r.name = .ok d ∧ db.readings? d.id = some rows ∧
      samples rows r.t0 r.t1 = .ok answered := by
  unfold reply at h
  cases found : db.descriptor r.name with
  | error e =>
      rw [found] at h
      cases h
  | ok d =>
      rw [found] at h
      dsimp only [bind, Except.bind] at h
      split at h
      · cases h
      · rename_i rows table
        exact ⟨d, rows, rfl, table, h⟩

theorem sliceable_reply (db : Database) (scope : Request → Prop) : Sliceable scope db.reply := by
  intro w r answered _ _ name le lt le' reply
  obtain ⟨d, rows, found, table, whole⟩ := exists_of_reply reply
  rw [reply_of_readings (name ▸ found) table]
  exact samples_of_samples le lt le' whole

end Database

namespace Connection

/-- What is remembered of a channel is what the directory says. -/
def Coherent (c : Connection) : Prop :=
  ∀ name d, c.descriptors.get? name = some d → c.database.descriptor name = .ok d

theorem coherent_ofDatabase (db : Database) : (ofDatabase db).Coherent :=
  nofun

theorem lookup_eq {c : Connection} (h : c.Coherent) (name : String) :
    (c.lookup name).1 = c.database.descriptor name ∧ (c.lookup name).2.Coherent ∧
      (c.lookup name).2.database = c.database := by
  unfold lookup
  cases known : c.descriptors.get? name with
  | some d => exact ⟨(h name d known).symm, h, rfl⟩
  | none =>
      cases found : c.database.descriptor name with
      | error e => exact ⟨rfl, h, rfl⟩
      | ok d =>
          refine ⟨rfl, ?_, rfl⟩
          intro other d' remembered
          by_cases same : other = name
          · subst same
            obtain rfl := Option.some.inj ((Keyed.get?_put_self _ _ _).symm.trans remembered)
            exact found
          · exact h other d' ((Keyed.get?_put_of_ne _ _ same).symm.trans remembered)

theorem fetch_eq {c : Connection} (h : c.Coherent) (r : Request) :
    (c.fetch r).1 = c.database.reply r ∧ (c.fetch r).2.Coherent ∧
      (c.fetch r).2.database = c.database := by
  obtain ⟨found, coherent, same⟩ := lookup_eq h r.name
  refine ⟨?_, coherent, same⟩
  rw [Database.reply, ← found, ← same]
  rfl

end Connection

end SpanQuery
