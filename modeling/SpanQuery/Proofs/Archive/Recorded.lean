import Mathlib
import SpanQuery.Proofs.Archive.Opening
import SpanQuery.Proofs.Evaluation.Questions
import SpanQuery.Proofs.Memory.Series

namespace SpanQuery

/-- A value that a table gives back as it is: it is a number, and no negative zero. -/
def Sample.Storable (s : Sample) : Prop :=
  s.value.isNaN = false ∧ s.value ≠ -0.0

theorem Sample.Storable.asReal {s : Sample} (h : s.Storable) :
    (Cell.real s.value).asReal = .real s.value := by
  obtain ⟨number, unsigned⟩ := h
  rw [Cell.asReal, number]
  cases zero : s.value == 0.0 with
  | false => rfl
  | true =>
      obtain ⟨-, -, plain | ⟨plain, -⟩ | ⟨signed, -⟩⟩ := Float.beq_iff_ne_nan_and_eq.1 zero
      · rw [plain]
        rfl
      · rw [plain]
        rfl
      · exact absurd signed unsigned

/-! ## Tables -/

namespace Database

theorem lookup_addReading (tables : List (Tick × List Reading)) (id other : Tick) (r : Reading) :
    List.lookup other (tables.map fun (found, rows) =>
        if found = id then (found, rows ++ [r]) else (found, rows)) =
      (tables.lookup other).map fun rows => if other = id then rows ++ [r] else rows := by
  induction tables with
  | nil => rfl
  | cons table rest ih =>
      obtain ⟨found, rows⟩ := table
      rw [List.map_cons, List.lookup_cons]
      by_cases here : other = found
      · subst here
        by_cases same : other = id <;> simp [same]
      · have skip : (other == found) = false := beq_false_of_ne here
        by_cases same : found = id
        · subst same
          simp only [if_true, List.lookup_cons, skip, ih]
        · simp only [same, if_false, List.lookup_cons, skip, ih]

theorem readings?_addReading (db : Database) (id other : Tick) (time value : Cell) :
    (db.addReading id time value).readings? other =
      (db.readings? other).map fun rows =>
        if other = id then rows ++ [⟨time.asInteger, value.asReal⟩] else rows := by
  unfold readings?
  split
  · rfl
  · exact lookup_addReading db.tables id other _

end Database

/-! ## Channels -/

theorem Descriptor.id_of_ofChannel {c : Channel} {d : Descriptor} (h : ofChannel c = .ok d) :
    d.id = c.id := by
  simp only [ofChannel, bind, Except.bind] at h
  iterate 5
    split at h
    · cases h
  cases h
  rfl

namespace Database

theorem exists_of_descriptor {db : Database} {name : String} {d : Descriptor}
    (h : db.descriptor name = .ok d) :
    ∃ rows c, db.channels = some rows ∧ c ∈ rows ∧ c.name = .text name ∧ d.id = c.id := by
  unfold descriptor at h
  cases directory : db.channels with
  | none =>
      rw [directory] at h
      cases h
  | some rows =>
      rw [directory] at h
      dsimp only at h
      split at h
      · cases h
      · rename_i c found
        refine ⟨rows, c, rfl, List.mem_of_find?_eq_some found, ?_, ?_⟩
        · have named := List.find?_some found
          split at named
          · rename_i s text
            rw [text, eq_of_beq named]
          · cases named
        · exact Descriptor.id_of_ofChannel h

theorem name_eq_of_descriptor {db : Database} (ids : ∀ rows, db.channels = some rows →
    (rows.map (·.id)).Nodup) {name other : String} {d d' : Descriptor}
    (h : db.descriptor name = .ok d) (h' : db.descriptor other = .ok d') (same : d.id = d'.id) :
    name = other := by
  obtain ⟨rows, c, directory, hc, text, id⟩ := exists_of_descriptor h
  obtain ⟨rows', c', directory', hc', text', id'⟩ := exists_of_descriptor h'
  obtain rfl := Option.some.inj (directory.symm.trans directory')
  obtain rfl : c = c' :=
    List.inj_on_of_nodup_map (ids rows directory) hc hc' (id.symm.trans (same.trans id'))
  exact Cell.text.inj (text.symm.trans text')

def record (db : Database) (row : String × Sample) : Database :=
  match db.descriptor row.1 with
  | .ok d => db.addReading d.id (.integer row.2.timestamp) (.real row.2.value)
  | .error _ => db

theorem channels_record (db : Database) (row : String × Sample) :
    (db.record row).channels = db.channels := by
  unfold record
  split <;> rfl

theorem descriptor_record (db : Database) (row : String × Sample) :
    (db.record row).descriptor = db.descriptor := by
  unfold record
  split <;> rfl

section Records
variable {name : String} {d : Descriptor}

theorem readings?_record {db : Database} (ids : ∀ rows, db.channels = some rows →
    (rows.map (·.id)).Nodup) (found : db.descriptor name = .ok d) {row : String × Sample}
    (storable : ∀ s ∈ samplesOf name [row], s.Storable) :
    (db.record row).readings? d.id =
      (db.readings? d.id).map (· ++ (samplesOf name [row]).map Reading.ofSample) := by
  by_cases here : row.1 = name
  · have own : samplesOf name [row] = [row.2] := by simp [samplesOf, here]
    rw [own] at storable ⊢
    rw [record, here, found]
    change (db.addReading d.id _ _).readings? d.id = _
    rw [readings?_addReading, (storable row.2 List.mem_cons_self).asReal]
    simp only [if_true]
    rfl
  · rw [samplesOf_of_ne here]
    simp only [List.map_nil, List.append_nil, Option.map_id']
    unfold record
    split
    · rename_i d' found'
      have apart : d.id ≠ d'.id := fun same =>
        here (name_eq_of_descriptor ids found' found same.symm)
      simp only [readings?_addReading, if_neg apart, Option.map_id']
    · rfl

theorem readings?_records {db : Database} (ids : ∀ rows, db.channels = some rows →
    (rows.map (·.id)).Nodup) (found : db.descriptor name = .ok d) {rows : List (String × Sample)}
    (storable : ∀ s ∈ samplesOf name rows, s.Storable) :
    (rows.foldl record db).readings? d.id =
      (db.readings? d.id).map (· ++ (samplesOf name rows).map Reading.ofSample) := by
  induction rows generalizing db with
  | nil => simp [samplesOf]
  | cons row rest ih =>
      have split : samplesOf name (row :: rest) = samplesOf name [row] ++ samplesOf name rest :=
        samplesOf_append name [row] rest
      rw [split, List.forall_mem_append] at storable
      rw [List.foldl_cons, ih (by rwa [channels_record]) (by rwa [descriptor_record]) storable.2,
        readings?_record ids found storable.1, Option.map_map, split]
      simp only [Function.comp_def, List.map_append, List.append_assoc]

theorem descriptor_records (db : Database) (rows : List (String × Sample)) :
    (rows.foldl record db).descriptor = db.descriptor := by
  induction rows generalizing db with
  | nil => rfl
  | cons row rest ih => rw [List.foldl_cons, ih, descriptor_record]

end Records

end Database

/-! ## Series -/

namespace Memory

/-- A memory that was filled with samples: one by one as they came, or with all samples of a
variable at once. -/
inductive Filled (m : Memory) (rows : List (String × Sample)) : Memory → Prop where
  | pushed : Filled m rows (rows.foldl (fun m row => m.push row.1 row.2) m)
  | inserted (names : List String) (all : ∀ name, name ∈ names ↔ name ∈ rows.map (·.1)) :
      Filled m rows (names.foldl (fun m name => m.insert name (samplesOf name rows)) m)

theorem Filled.samples?_eq {m m' : Memory} {rows : List (String × Sample)} (h : m.Filled rows m')
    {name : String} (start : (m.samples? name).getD [] = []) :
    m'.samples? name = if samplesOf name rows = [] then m.samples? name
      else some (Sample.sort (samplesOf name rows)) := by
  cases h with
  | pushed => rw [samples?_pushes, start, Sample.foldl_insertInto_nil]
  | inserted names all =>
      have present : name ∈ names ↔ samplesOf name rows ≠ [] := by
        simp [all, samplesOf]
      simp only [samples?_inserts, present, ne_eq, ite_not]

end Memory

/-! ## Agreement -/

/-- A variable whose samples can be recorded in a database and a memory: a channel with an empty
table, or a name that is unknown to both and has no samples. A memory that never got a sample of the
variable has to know that there is a series. -/
inductive Recordable (db : Database) (m : Memory) (name : String) (samples : List Sample) :
    Prop where
  | channel (d : Descriptor) (found : db.descriptor name = .ok d)
      (table : db.readings? d.id = some [])
      (series : m.samples? name = some [] ∨ m.samples? name = none ∧ samples ≠ [])
      (storable : ∀ s ∈ samples, s.Storable)
  | unknown (missing : db.descriptor name = .error (.variableNotFound name))
      (series : m.samples? name = none) (none : samples = [])

section Recorded
variable {db : Database} {m m' : Memory} {rows : List (String × Sample)}
  (ids : ∀ channels, db.channels = some channels → (channels.map (·.id)).Nodup)
  (filled : m.Filled rows m')
include ids filled

theorem Recordable.reply_eq {r : Request} (h : Recordable db m r.name (samplesOf r.name rows))
    (lt : r.t0 < r.t1) : (rows.foldl Database.record db).reply r = m'.answer r := by
  have descriptors := Database.descriptor_records db rows
  cases h with
  | unknown missing series none =>
      unfold Database.reply Memory.answer
      rw [descriptors, missing, filled.samples?_eq (by rw [series]; rfl), if_pos none, series]
      rfl
  | channel d found table series storable =>
      have start : (m.samples? r.name).getD [] = [] := by
        rcases series with series | ⟨series, -⟩ <;> rw [series] <;> rfl
      have sorted : m'.samples? r.name = some (Sample.sort (samplesOf r.name rows)) := by
        rw [filled.samples?_eq start]
        split
        · rename_i none
          rcases series with series | ⟨-, some⟩
          · rw [series, none]
            exact congrArg some List.mergeSort_nil.symm
          · exact absurd none some
        · rfl
      have recorded := Database.readings?_records ids found storable
      rw [table] at recorded
      rw [Database.reply_of_readings (descriptors ▸ found) recorded, Memory.answer_of_known sorted]
      exact Database.samples_ofSample _ lt

/-- Whatever the order of the ticks, an archive and a memory to which the same samples were given
answer alike: all requests for windows that are not empty, and so all evaluations. -/
theorem answers_recorded {c : Connection} (coherent : c.Coherent)
    (recorded : c.database = rows.foldl Database.record db) :
    (∀ r : Request, Recordable db m r.name (samplesOf r.name rows) → r.t0 < r.t1 →
      (SplitArchive.source r ⟨c, none⟩).1 = (Memory.source r m').1) ∧
    ∀ (e : Expr) (t0 t1 : Tick),
      (∀ name ∈ e.occurrences, Recordable db m name (samplesOf name rows)) →
      ((e.course t0 t1).items SplitArchive.source ⟨c, none⟩).1 =
        ((e.course t0 t1).items Memory.source m').1 := by
  have whole : (⟨c, none⟩ : SplitArchive).Coherent := ⟨coherent, nofun⟩
  have charge : ∀ t, (⟨c, none⟩ : SplitArchive).inCharge t = rows.foldl Database.record db :=
    fun _ => recorded
  constructor
  · intro r recordable lt
    rw [(SplitArchive.source_eq whole r).1, charge, recordable.reply_eq ids filled lt]
    rfl
  · intro e t0 t1 recordable
    by_cases lt : t0 < t1
    · let scope (r : Request) : Prop := r.name ∈ e.occurrences ∧ Request.Within t0 t1 r
      have replies : Replies SplitArchive.source scope _ m'.answer :=
        (SplitArchive.replies_source ⟨c, none⟩ scope).congr fun r hr => by
          rw [charge, (recordable r.name hr.1).reply_eq ids filled hr.2.2.1]
      exact (e.asks_occurrences Sample.firstCut lt).items_congr replies
        (fun r s _ => m'.replies_source r s trivial) ⟨whole, rfl⟩ rfl
    · rw [Expr.course, e.courseBy_of_le _ (Int64.not_lt.1 lt)]
      rfl

end Recorded

theorem answers_recorded_ties :
    let db : Database := ⟨some [⟨1, .text "A", .null, .null, .null, .null⟩,
      ⟨2, .text "B", .null, .null, .null, .null⟩], [(1, []), (2, [])]⟩
    let rows : List (String × Sample) :=
      [("A", ⟨5, 1⟩), ("B", ⟨3, 2⟩), ("A", ⟨2, 4⟩), ("A", ⟨5, 3⟩)]
    let m := rows.foldl (fun m row => m.push row.1 row.2) Memory.empty
    let a : SplitArchive := ⟨.ofDatabase (rows.foldl Database.record db), none⟩
    let e := Expr.binary .add (.binary .mul (.variable "A") (.variable "B")) (.variable "C")
    (∀ name ∈ ["A", "B", "C"], Recordable db .empty name (samplesOf name rows)) ∧
      m.answer ⟨"A", 6, 9⟩ = .ok [⟨5, 3⟩] ∧
      (SplitArchive.source ⟨"A", 6, 9⟩ a).1 = (Memory.source ⟨"A", 6, 9⟩ m).1 ∧
      ((e.course 3 10).items SplitArchive.source a).1 =
        ((e.course 3 10).items Memory.source m).1 := by
  intro db rows m a e
  have ids : ∀ channels, db.channels = some channels → (channels.map (·.id)).Nodup := by
    rintro channels ⟨⟩
    decide
  have recordable : ∀ name ∈ ["A", "B", "C"], Recordable db .empty name (samplesOf name rows) := by
    simp only [List.forall_mem_cons]
    refine ⟨?_, ?_, ?_, nofun⟩
    · exact .channel ⟨1, "A", none, none, none, none⟩ rfl rfl (.inr ⟨rfl, List.cons_ne_nil _ _⟩)
        (by simp [samplesOf, rows, Sample.Storable]; decide)
    · exact .channel ⟨2, "B", none, none, none, none⟩ rfl rfl (.inr ⟨rfl, List.cons_ne_nil _ _⟩)
        (by simp [samplesOf, rows, Sample.Storable]; decide)
    · exact .unknown rfl rfl rfl
  obtain ⟨fetched, evaluated⟩ := answers_recorded ids (Memory.Filled.pushed (m := .empty))
    (Connection.coherent_ofDatabase (rows.foldl Database.record db)) rfl
  exact ⟨recordable, rfl, fetched ⟨"A", 6, 9⟩ (recordable _ (by simp)) (by decide),
    evaluated e 3 10 recordable⟩

end SpanQuery
