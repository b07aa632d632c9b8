import SpanQuery.Proofs.Course.Answers
import SpanQuery.Proofs.Evaluation.Coverage

/-!
# What an evaluation asks

The window of a request is that of the whole evaluation, or the interval of a left operand. Which
one it is can be seen from the expression, whatever the answers are. No window is narrowed if only
one variable occurs, and only once: what stands to the left of it is constant, so it has one
interval.
-/

namespace SpanQuery

open Course

def Request.Within (t0 t1 : Tick) (r : Request) : Prop :=
  t0 ≤ r.t0 ∧ r.t0 < r.t1 ∧ r.t1 ≤ t1

def Request.Whole (t0 t1 : Tick) (r : Request) : Prop :=
  r.t0 = t0 ∧ r.t1 = t1

namespace Expr

theorem asks_occurrences (cut : Sample.Cut) (e : Expr) {t0 t1 : Tick} (lt : t0 < t1) :
    (e.courseBy cut t0 t1).Asks fun r => r.name ∈ e.occurrences ∧ Request.Within t0 t1 r := by
  refine (e.keeps_courseBy cut lt).asks (fun _ _ => trivial) ?_
  rintro t last q le lt' le' ⟨name, rfl, rfl⟩
  exact ⟨name, le, lt', le'⟩

theorem asks_within (cut : Sample.Cut) (e : Expr) {t0 t1 : Tick} (lt : t0 < t1) :
    (e.courseBy cut t0 t1).Asks (Request.Within t0 t1) :=
  (e.asks_occurrences cut lt).mono fun _ asked => asked.2

theorem asks_of_constant {scope : Request → Prop} (cut : Sample.Cut) {e : Expr}
    (constant : e.occurrences = []) (t0 t1 : Tick) : (e.courseBy cut t0 t1).Asks scope := by
  by_cases lt : t0 < t1
  · refine (e.asks_occurrences cut lt).mono ?_
    rintro q ⟨name, -⟩
    rw [constant] at name
    cases name
  · rw [e.courseBy_of_le cut (Int64.not_lt.1 lt)]
    trivial

end Expr

theorem Course.ofItem_mapItem (item : Item) (f : Interval → Item) :
    (ofItem item : Course ρ α).mapItem f = ofItem (item >>= f) := by
  cases item with
  | error e => rfl
  | ok i =>
      change (ofItem (f i)).append (fun _ => done) = ofItem (f i)
      cases f i <;> rfl

theorem Course.ofItem_flatMap_ofItem {item : Item} {f : Interval → Course ρ α}
    {g : Interval → Item} (h : ∀ i, item = .ok i → f i = ofItem (g i)) :
    (ofItem item).flatMap f = ofItem (item >>= g) := by
  rw [← ofItem_mapItem]
  cases item with
  | error e => rfl
  | ok i =>
      change (f i).append (fun _ => done) = (ofItem (g i)).append fun _ => done
      rw [h i rfl]

def Item.Spans (start stop : Tick) (item : Item) : Prop :=
  ∀ i, item = .ok i → i.start = start ∧ i.stop = stop

theorem Item.spans_error {start stop : Tick} (e : QueryError) :
    Item.Spans start stop (.error e) := by
  intro i h
  cases h

theorem Interval.spans_withResult (i : Interval) (result : Except ValueFault Value) :
    Item.Spans i.start i.stop (i.withResult result) := by
  rintro j h
  cases result with
  | error fault => cases h
  | ok v =>
      obtain rfl := Except.ok.inj h
      exact ⟨rfl, rfl⟩

theorem Item.Spans.bind {start stop : Tick} {item : Item} (h : item.Spans start stop)
    {f : Interval → Item} (inner : ∀ i, (f i).Spans i.start i.stop) :
    Item.Spans start stop (item >>= f) := by
  intro j hj
  cases item with
  | error e => cases hj
  | ok i =>
      obtain ⟨rfl, rfl⟩ := h i rfl
      exact inner i j hj

namespace Expr

theorem courseBy_of_constant (cut : Sample.Cut) {e : Expr} (constant : e.occurrences = [])
    {t0 t1 : Tick} (lt : t0 < t1) :
    ∃ item : Item, e.courseBy cut t0 t1 = .ofItem item ∧ item.Spans t0 t1 := by
  induction e using evaluationInduction with
  | literal value =>
      rw [courseBy, if_pos lt]
      refine ⟨_, rfl, ?_⟩
      rintro i ⟨⟩
      exact ⟨rfl, rfl⟩
  | name name => cases constant
  | unary op operand ih =>
      obtain ⟨item, course, spans⟩ := ih constant
      rw [courseBy, course, ofItem_mapItem]
      exact ⟨_, rfl, spans.bind fun i => i.spans_withResult _⟩
  | binary op left right ihl ihr =>
      obtain ⟨constantLeft, constantRight⟩ := List.append_eq_nil_iff.1 constant
      obtain ⟨item, course, spans⟩ := ihl constantLeft
      obtain ⟨item', course', spans'⟩ := ihr constantRight
      -- The one interval of the left operand is the whole window.
      have inner : ∀ i, item = .ok i → (right.courseBy cut i.start i.stop).mapItem
          (op.over i.value) = ofItem (item' >>= op.over i.value) := by
        intro i here
        obtain ⟨rfl, rfl⟩ := spans i here
        rw [course', ofItem_mapItem]
      rw [courseBy, course, ofItem_flatMap_ofItem inner]
      refine ⟨_, rfl, ?_⟩
      cases item with
      | error e => exact Item.spans_error e
      | ok i => exact spans'.bind fun j => j.spans_withResult _
  | call name args =>
      rw [courseBy, if_pos lt]
      exact ⟨.error _, rfl, Item.spans_error _⟩

theorem asks_variable (cut : Sample.Cut) (name : String) {t0 t1 : Tick} (lt : t0 < t1) :
    ((Expr.variable name).courseBy cut t0 t1).Asks (· = ⟨name, t0, t1⟩) := by
  rw [courseBy, if_pos lt]
  refine ⟨rfl, fun answer => ?_⟩
  have quiet : Keeps (.within []) t1 t0 (Sample.course cut ⟨name, t0, t1⟩ answer) :=
    Sample.keeps_course (r := ⟨name, t0, t1⟩) (fun _ _ _ => trivial) cut lt (fun _ => trivial)
      trivial answer
  refine quiet.asks (fun _ _ => trivial) fun _ _ _ _ _ _ asked => ?_
  cases asked.1

theorem asks_whole (cut : Sample.Cut) {e : Expr} (once : e.occurrences.length ≤ 1)
    {t0 t1 : Tick} (lt : t0 < t1) : (e.courseBy cut t0 t1).Asks (Request.Whole t0 t1) := by
  induction e using evaluationInduction with
  | literal value => exact asks_of_constant cut rfl t0 t1
  | name name =>
      refine (asks_variable cut name lt).mono ?_
      rintro _ rfl
      exact ⟨rfl, rfl⟩
  | unary op operand ih => exact (ih once).mapItem _
  | binary op left right ihl ihr =>
      rw [occurrences, List.length_append] at once
      by_cases constant : left.occurrences = []
      · obtain ⟨item, course, spans⟩ := courseBy_of_constant cut constant lt
        rw [courseBy, course]
        cases item with
        | error e => trivial
        | ok i =>
            obtain ⟨rfl, rfl⟩ := spans i rfl
            exact ((ihr (by omega)).mapItem _).append trivial
      · have first : 0 < left.occurrences.length := List.length_pos_iff.2 constant
        have rest : right.occurrences = [] := List.length_eq_zero_iff.1 (by omega)
        exact (ihl (by omega)).flatMap fun i => (asks_of_constant cut rest _ _).mapItem _
  | call name args =>
      rw [courseBy, if_pos lt]
      trivial

end Expr

end SpanQuery
