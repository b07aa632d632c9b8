import SpanQuery.Proofs.Archive.CacheSetting
import SpanQuery.Proofs.Archive.Recorded
import SpanQuery.Proofs.Evaluation.Pointwise

namespace SpanQuery

/-! ## Items of composed courses -/

namespace Course

def answeredItems (reply : ρ → α) : Course ρ α → List Item
  | done => []
  | fail e next => .error e :: (next ()).answeredItems reply
  | emit i next => .ok i :: (next ()).answeredItems reply
  | ask q answer => (answer (reply q)).answeredItems reply

theorem Asks.items_eq {scope : ρ → Prop} {reply : ρ → α} {inv : σ → Prop}
    {asking : ρ → StateM σ α} {c : Course ρ α} (h : c.Asks scope)
    (replies : Replies asking scope inv reply) {s : σ} (hs : inv s) :
    (c.items asking s).1 = c.answeredItems reply := by
  induction c generalizing s with
  | done => rfl
  | fail e next ih => exact congrArg (.error e :: ·) (ih () h hs)
  | emit i next ih => exact congrArg (.ok i :: ·) (ih () h hs)
  | ask q answer ih =>
      obtain ⟨same, kept⟩ := replies q s h.1 hs
      change ((answer (asking q s).1).items asking (asking q s).2).1 = _
      rw [same]
      exact ih _ (h.2 _) kept

section Composed
variable {reply : ρ → α} {c : Course ρ α} {i : Interval}

theorem mem_or_mem_of_mem_append {rest : Unit → Course ρ α}
    (h : .ok i ∈ (c.append rest).answeredItems reply) :
    .ok i ∈ c.answeredItems reply ∨ .ok i ∈ (rest ()).answeredItems reply := by
  induction c with
  | done => exact .inr h
  | fail e => simp [append, answeredItems] at h
  | emit j next ih =>
      rcases List.mem_cons.1 h with here | later
      · exact .inl (List.mem_cons.2 (.inl here))
      · exact (ih () later).imp_left (List.mem_cons_of_mem _)
  | ask q answer ih => exact ih _ h

theorem exists_of_mem_flatMap {f : Interval → Course ρ α}
    (h : .ok i ∈ (c.flatMap f).answeredItems reply) :
    ∃ l, .ok l ∈ c.answeredItems reply ∧ .ok i ∈ (f l).answeredItems reply := by
  induction c with
  | done => cases h
  | fail e => simp [flatMap, answeredItems] at h
  | emit j next ih =>
      rcases mem_or_mem_of_mem_append h with here | later
      · exact ⟨j, List.mem_cons_self, here⟩
      · obtain ⟨l, hl, inner⟩ := ih () later
        exact ⟨l, List.mem_cons_of_mem _ hl, inner⟩
  | ask q answer ih => exact ih _ h

theorem exists_of_mem_mapItem {f : Interval → Item}
    (h : .ok i ∈ (c.mapItem f).answeredItems reply) :
    ∃ j, .ok j ∈ c.answeredItems reply ∧ f j = .ok i := by
  obtain ⟨j, hj, item⟩ := exists_of_mem_flatMap h
  refine ⟨j, hj, ?_⟩
  cases result : f j with
  | error e => simp [result, ofItem, answeredItems] at item
  | ok k =>
      rw [result] at item
      exact (List.mem_singleton.1 item).symm

end Composed

end Course

/-! ## Variables -/

namespace Expr

theorem of_mem_items {m : Memory} {e : Expr} {t0 t1 : Tick} (lt : t0 < t1) {i : Interval}
    (h : .ok i ∈ ((e.course t0 t1).items Memory.source m).1) :
    (t0 ≤ i.start ∧ i.start < i.stop ∧ i.stop ≤ t1) ∧
      ∀ t, i.start ≤ t → t < i.stop → e.valueAt m t = .ok i.value := by
  obtain ⟨reach, spans, ending, run, tiles, le, values, ends⟩ :=
    (e.keeps_course_pointwise m lt).items (Course.Contract.pointwise_served m _) rfl
  rw [run, List.mem_append] at h
  rcases h with h | h
  · obtain ⟨_, hi, ⟨⟩⟩ := List.mem_map.1 h
    obtain ⟨hstart, proper, hstop⟩ := tiles.mem hi
    exact ⟨⟨hstart, proper, Int64.le_trans hstop le⟩, values i hi⟩
  · exact absurd h (ends.not_ok i)

theorem of_mem_variable {m : Memory} {name : String} {t0 t1 : Tick} (lt : t0 < t1)
    {reply : Request → Answer} (same : m.answer ⟨name, t0, t1⟩ = reply ⟨name, t0, t1⟩)
    {i : Interval} (h : .ok i ∈ ((Expr.variable name).course t0 t1).answeredItems reply) :
    (t0 ≤ i.start ∧ i.start < i.stop ∧ i.stop ≤ t1) ∧
      ∀ t, i.start ≤ t → t < i.stop → m.valueAt t name = .ok i.value := by
  have replies : Replies Memory.source (· = ⟨name, t0, t1⟩) (· = m) reply := by
    rintro q s rfl rfl
    exact ⟨same, rfl⟩
  rw [course, ← (asks_variable _ name lt).items_eq replies rfl] at h
  exact of_mem_items (e := .variable name) lt h

theorem exists_reply_of_mem {name : String} {t0 t1 : Tick} {reply : Request → Answer} {i : Interval}
    (h : .ok i ∈ ((Expr.variable name).course t0 t1).answeredItems reply) :
    ∃ samples, reply ⟨name, t0, t1⟩ = .ok samples := by
  rw [course, courseBy] at h
  split at h
  · cases answer : reply ⟨name, t0, t1⟩ with
    | ok samples => exact ⟨samples, rfl⟩
    | error e => simp [Course.answeredItems, answer, Sample.course, Course.ofItem] at h
  · cases h

end Expr

/-! ## Numbers -/

def Memory.Numeric (m : Memory) : Prop :=
  ∀ p ∈ m.series, ∀ s ∈ p.2, s.value.isNaN = false

def Database.Numeric (db : Database) : Prop :=
  ∀ table ∈ db.tables, ∀ r ∈ table.2, ∀ x, r.value.toReal = .ok x → x.isNaN = false

namespace Database

theorem of_reply {db : Database} {r : Request} {samples : List Sample}
    (h : db.reply r = .ok samples) :
    Sample.Ordered samples ∧ (db.Numeric → ∀ s ∈ samples, s.value.isNaN = false) := by
  obtain ⟨d, rows, -, table, answered⟩ := exists_of_reply h
  obtain ⟨ordered, read⟩ := of_samples answered
  refine ⟨ordered, fun numeric s hs => ?_⟩
  obtain ⟨reading, mem, sample⟩ := read s hs
  have stored : (d.id, rows) ∈ db.tables := by
    unfold readings? at table
    split at table
    · cases table
    · obtain ⟨before, later, split, -⟩ := List.lookup_eq_some_iff.1 table
      simp [split]
  exact numeric _ stored _ mem _ (Reading.of_toSample sample).2

end Database

namespace Memory

theorem of_answer {m : Memory} {r : Request} {samples : List Sample}
    (h : m.answer r = .ok samples) :
    Sample.Ordered samples ∧ (m.Numeric → ∀ s ∈ samples, s.value.isNaN = false) := by
  obtain ⟨series, known, rfl⟩ := exists_of_answer h
  have part := Sample.window_sublist series r.t0 r.t1
  exact ⟨(m.ordered_samples? known).sublist part,
    fun numeric s hs => numeric _ (Keyed.mem_of_get? known) s (part.mem hs)⟩

def single (name : String) {samples : List Sample} (ordered : Sample.Ordered samples) : Memory :=
  ⟨[(name, samples)], by simpa using ordered⟩

theorem samples?_single (name : String) {samples : List Sample}
    (ordered : Sample.Ordered samples) : (single name ordered).samples? name = some samples := by
  simp [single, samples?, Keyed.get?]

theorem answer_single {name : String} {samples : List Sample} (ordered : Sample.Ordered samples)
    (t0 t1 : Tick) :
    (single name ordered).answer ⟨name, t0, t1⟩ = .ok (Sample.window samples t0 t1) :=
  answer_of_known (samples?_single name ordered)

theorem exists_number_of_valueAt {m : Memory} {t : Tick} {name : String} {v : Value}
    (h : m.valueAt t name = .ok v) {samples : List Sample}
    (known : m.samples? name = some samples) : ∃ s ∈ samples, v = .number s.value := by
  simp only [valueAt, known] at h
  split at h
  · cases h
  · rename_i s held
    exact ⟨s, List.mem_of_mem_filter (List.mem_of_getLast? held), (Except.ok.inj h).symm⟩

end Memory

namespace FileSource

def Numeric : FileSource → Prop
  | records m => m.Numeric
  | databases a => a.main.database.Numeric ∧
      ∀ cutover history, a.history = some (cutover, history) → history.database.Numeric

/-- The tick from which on windows are read from the main database of a split archive. -/
def cutover? : FileSource → Option Tick
  | records _ => none
  | databases a => a.history.map (·.1)

theorem Numeric.inCharge {a : SplitArchive} (h : (databases a).Numeric) (t : Tick) :
    (a.inCharge t).Numeric := by
  obtain ⟨main, history⟩ := h
  unfold SplitArchive.inCharge
  split
  · rename_i cutover old split
    split
    · exact history cutover old split
    · exact main
  · exact main

theorem of_reply {f : FileSource} {r : Request} {samples : List Sample}
    (h : f.reply r = .ok samples) :
    Sample.Ordered samples ∧ (f.Numeric → ∀ s ∈ samples, s.value.isNaN = false) := by
  cases f with
  | records m => exact Memory.of_answer h
  | databases a =>
      obtain ⟨ordered, numbers⟩ := Database.of_reply h
      exact ⟨ordered, fun numeric => numbers (numeric.inCharge r.t0)⟩

theorem reply_of_reply {f : FileSource} {w r : Request} {samples : List Sample}
    (whole : f.reply w = .ok samples) (name : r.name = w.name) (le : w.t0 ≤ r.t0) (lt : r.t0 < r.t1)
    (le' : r.t1 ≤ w.t1) :
    f.reply r = .ok (Sample.window samples r.t0 r.t1) ∨
      ∃ cutover, f.cutover? = some cutover ∧ w.t0 < cutover ∧ cutover ≤ r.t0 := by
  by_cases apart : ∃ cutover, f.cutover? = some cutover ∧ w.t0 < cutover ∧ cutover ≤ r.t0
  · exact .inr apart
  · suffices undivided : f.Undivided fun q => q = w ∨ q = r from
      .inl (sliceable_reply undivided w r samples (.inl rfl) (.inr rfl) name le lt le' whole)
    cases f with
    | records m => trivial
    | databases a =>
        have charge : a.inCharge w.t0 = a.inCharge r.t0 := by
          unfold SplitArchive.inCharge
          cases history : a.history with
          | none => rfl
          | some split =>
              have known : (databases a).cutover? = some split.1 := by simp [cutover?, history]
              by_cases early : w.t0 < split.1
              · have early' : r.t0 < split.1 := Int64.not_le.1 fun late =>
                  apart ⟨split.1, known, early, late⟩
                simp only [if_pos early, if_pos early']
              · have late : ¬ r.t0 < split.1 := fun early' =>
                  early (Int64.lt_of_le_of_lt le early')
                simp only [if_neg early, if_neg late]
        rintro q q' (rfl | rfl) (rfl | rfl)
        · rfl
        · exact charge
        · exact charge.symm
        · rfl

theorem of_mem_variable {f : FileSource} {name : String} {t0 t1 : Tick} (lt : t0 < t1)
    {i : Interval} (h : .ok i ∈ ((Expr.variable name).course t0 t1).answeredItems f.reply) :
    ∃ (samples : List Sample) (ordered : Sample.Ordered samples),
      f.reply ⟨name, t0, t1⟩ = .ok samples ∧
      (t0 ≤ i.start ∧ i.start < i.stop ∧ i.stop ≤ t1) ∧
      ∀ t, i.start ≤ t → t < i.stop →
        (Memory.single name ordered).valueAt t name = .ok i.value := by
  obtain ⟨samples, whole⟩ := Expr.exists_reply_of_mem h
  obtain ⟨ordered, -⟩ := of_reply whole
  refine ⟨samples, ordered, whole, Expr.of_mem_variable lt ?_ h⟩
  rcases reply_of_reply (r := ⟨name, t0, t1⟩) whole rfl Int64.le_rfl lt Int64.le_rfl with
    same | ⟨cutover, -, early, late⟩
  · rw [same, Memory.answer_single]
  · exact absurd early (Int64.not_lt.2 late)

end FileSource

/-! ## A divided variable -/

def Database.ofSeries (name : String) (samples : List Sample) : Database where
  channels := some [⟨1, .text name, .null, .null, .null, .null⟩]
  tables := [(1, samples.map Reading.ofSample)]

theorem Database.reply_ofSeries {name : String} (samples : List Sample) {r : Request}
    (here : r.name = name) (lt : r.t0 < r.t1) :
    (ofSeries name samples).reply r = .ok (Sample.window (Sample.sort samples) r.t0 r.t1) := by
  have found : (ofSeries name samples).descriptor r.name =
      .ok ⟨1, name, none, none, none, none⟩ := by
    simp [descriptor, ofSeries, here]
    rfl
  rw [reply, found]
  exact samples_ofSample samples lt

def dividedSource : FileSource :=
  .databases ⟨.ofDatabase (.ofSeries "A" [⟨5, 3⟩]),
    some (5, .ofDatabase (.ofSeries "A" [⟨0, 1⟩, ⟨6, 2⟩]))⟩

theorem coherent_dividedSource : dividedSource.Coherent :=
  (FileSource.Opened.split _ _ 5).coherent

theorem numeric_dividedSource : dividedSource.Numeric := by
  have stored : ∀ samples : List Sample, (∀ s ∈ samples, s.value.isNaN = false) →
      (Database.ofSeries "A" samples).Numeric := by
    intro samples numbers table ht r hr x value
    obtain rfl := List.mem_singleton.1 ht
    obtain ⟨s, hs, rfl⟩ := List.mem_map.1 hr
    obtain rfl := Except.ok.inj value
    exact numbers s hs
  refine ⟨stored _ (by decide), ?_⟩
  rintro _ _ ⟨⟩
  exact stored _ (by decide)

theorem items_dividedSource :
    (((Expr.binary .eq (.variable "A") (.variable "A")).course 0 10).items
      FileSource.source dividedSource).1 = [.ok ⟨0, 6, .bool true⟩, .ok ⟨6, 10, .bool false⟩] := by
  let reply (r : Request) : Answer :=
    .ok (Sample.window (if r.t0 < 5 then [⟨0, 1⟩, ⟨6, 2⟩] else [⟨5, 3⟩]) r.t0 r.t1)
  let scope (r : Request) : Prop := r.name ∈ ["A", "A"] ∧ Request.Within 0 10 r
  have replies : Replies FileSource.source scope _ reply :=
      (dividedSource.replies_source scope).congr <| by
    rintro r ⟨mem, -, lt, -⟩
    have here : r.name = "A" := by simpa using mem
    change (if r.t0 < 5 then Database.ofSeries "A" [⟨0, 1⟩, ⟨6, 2⟩]
      else .ofSeries "A" [⟨5, 3⟩]).reply r = _
    unfold reply
    split <;> rw [Database.reply_ofSeries _ here lt, ← Sample.foldl_insertInto_nil] <;> rfl
  rw [Expr.course, (Expr.asks_occurrences _ _ (by decide)).items_eq replies
    ⟨coherent_dividedSource, rfl⟩]
  rfl

/-! ## Comparison -/

theorem BinaryOp.eq_over_of_number {x : Float} (number : x.isNaN = false) {j : Interval}
    (here : j.value = .number x) :
    BinaryOp.eq.over (.number x) j = .ok { j with value := .bool true } := by
  rw [BinaryOp.over, here]
  change j.withResult (.ok (.bool (x == x))) = _
  have same : (x == x) = true := Float.beq_self_iff.2 (by simpa using number)
  rw [same]
  rfl

/-- Over a source whose values are numbers, a variable is equal to itself wherever it has a value;
where the cutover of a split archive lies inside the window, this holds before it. -/
theorem eq_self_true {f : FileSource} (coherent : f.Coherent) (numeric : f.Numeric) (name : String)
    {t0 t1 : Tick} (lt : t0 < t1) {i : Interval}
    (h : .ok i ∈ (((Expr.binary .eq (.variable name) (.variable name)).course t0 t1).items
      FileSource.source f).1) :
    i.value = .bool true ∨
      ∃ cutover, f.cutover? = some cutover ∧ t0 < cutover ∧ cutover ≤ i.start := by
  rw [Expr.course, (Expr.asks_within _ _ lt).items_eq (f.replies_source _) ⟨coherent, rfl⟩,
    Expr.courseBy] at h
  obtain ⟨l, hl, inner⟩ := Course.exists_of_mem_flatMap h
  obtain ⟨j, hj, result⟩ := Course.exists_of_mem_mapItem inner
  obtain ⟨samples, ordered, whole, ⟨low, proper, high⟩, leftValue⟩ :=
    FileSource.of_mem_variable lt hl
  obtain ⟨-, -, -, ⟨low', proper', high'⟩, -⟩ := FileSource.of_mem_variable proper hj
  rcases FileSource.reply_of_reply (r := ⟨name, l.start, l.stop⟩) whole rfl low proper high with
    same | ⟨cutover, known, early, late⟩
  · -- The right operand is read from the samples of the left one.
    have rightValue := (Expr.of_mem_variable (m := .single name ordered) proper
      (by rw [same, Memory.answer_single]) hj).2 j.start Int64.le_rfl proper'
    have value : l.value = j.value := Except.ok.inj <|
      (leftValue j.start low' (Int64.lt_of_lt_of_le proper' high')).symm.trans rightValue
    obtain ⟨s, hs, number⟩ :=
      Memory.exists_number_of_valueAt rightValue (Memory.samples?_single name ordered)
    have noNaN := (FileSource.of_reply whole).2 numeric s hs
    rw [value, number, BinaryOp.eq_over_of_number noNaN number] at result
    obtain rfl := Except.ok.inj result
    exact .inl rfl
  · have start : i.start = j.start := (j.spans_withResult _ i result).1
    exact .inr ⟨cutover, known, early, Int64.le_trans late (start ▸ low')⟩

theorem eq_self_true_divided :
    let e := Expr.binary .eq (.variable "A") (.variable "A")
    (dividedSource.Coherent ∧ dividedSource.Numeric ∧ (0 : Tick) < 10 ∧
      .ok ⟨0, 6, .bool true⟩ ∈ ((e.course 0 10).items FileSource.source dividedSource).1) ∧
    (Value.bool true = .bool true ∨
      ∃ cutover, dividedSource.cutover? = some cutover ∧ (0 : Tick) < cutover ∧ cutover ≤ 0) := by
  intro e
  have first : .ok ⟨0, 6, .bool true⟩ ∈
      ((e.course 0 10).items FileSource.source dividedSource).1 := by
    simp [e, items_dividedSource]
  exact ⟨⟨coherent_dividedSource, numeric_dividedSource, by decide, first⟩,
    eq_self_true coherent_dividedSource numeric_dividedSource "A" (by decide) first⟩

/-- The value of the left operand at tick 6 comes from the history, that of the right one from the
main database. -/
theorem eq_self_split :
    dividedSource.Coherent ∧ dividedSource.Numeric ∧ (0 : Tick) < 10 ∧
      ∃ i : Interval, i.value = .bool false ∧
        .ok i ∈ (((Expr.binary .eq (.variable "A") (.variable "A")).course 0 10).items
          FileSource.source dividedSource).1 := by
  refine ⟨coherent_dividedSource, numeric_dividedSource, by decide, ⟨6, 10, .bool false⟩, rfl, ?_⟩
  simp [items_dividedSource]

end SpanQuery
