import SpanQuery.Compression
import SpanQuery.Proofs.Evaluation.Pointwise
import SpanQuery.Proofs.Subsampling.Selection

namespace SpanQuery

def Request.narrow (r : Request) (answer : Answer) : Answer :=
  answer.map (Sample.window · r.t0 r.t1)

def Source.narrowed (source : Source σ) : Source σ :=
  fun r s => (r.narrow (source r s).1, (source r s).2)

namespace Sample

theorem steps_takeWhile (stop start : Tick) (value : Float) (samples : List Sample) :
    (steps stop start value (samples.takeWhile (·.timestamp < stop)) : Course ρ α) =
      steps stop start value samples := by
  induction samples generalizing start value with
  | nil => rfl
  | cons s later ih =>
      by_cases before : s.timestamp < stop
      · rw [List.takeWhile_cons_of_pos (by simpa using before), steps, steps, if_pos before,
          if_pos before]
        split
        · exact ih start s.value
        · simp only [ih]
      · rw [List.takeWhile_cons_of_neg (by simpa using before), steps, steps, if_neg before]

theorem course_narrow {r : Request} (lt : r.t0 < r.t1) (answer : Answer) :
    (course firstCut r (r.narrow answer) : Course ρ α) = course firstCut r answer := by
  cases answer with
  | error e => rfl
  | ok samples =>
      change course firstCut ⟨r.name, r.t0, r.t1⟩ (.ok (window samples r.t0 r.t1)) = _
      rw [course_window r.name samples lt, course, (cut_firstCut _ _).1, (cut_firstCut _ _).2]
      cases (upTo r.t0 samples).getLast? with
      | none => rfl
      | some anchor => exact steps_takeWhile r.t1 r.t0 anchor.value _

end Sample

namespace Course

/-- No question makes a difference between an answer and the window of it. -/
def Narrows : Course Request Answer → Prop
  | done => True
  | fail _ next | emit _ next => (next ()).Narrows
  | ask q answer => ∀ a, answer (q.narrow a) = answer a ∧ (answer a).Narrows

section Composition
variable {c : Course Request Answer}

theorem narrows_ofItem (item : Item) : (ofItem item).Narrows := by
  cases item <;> trivial

theorem Narrows.append {rest : Unit → Course Request Answer} (h : c.Narrows)
    (hrest : (rest ()).Narrows) : (c.append rest).Narrows := by
  induction c with
  | done => exact hrest
  | fail e => trivial
  | emit i next ih => exact ih () h
  | ask q answer ih => exact fun a => ⟨congrArg (Course.append · rest) (h a).1, ih a (h a).2⟩

theorem Narrows.flatMap {f : Interval → Course Request Answer} (h : c.Narrows)
    (inner : ∀ i, (f i).Narrows) : (c.flatMap f).Narrows := by
  induction c with
  | done => trivial
  | fail e => trivial
  | emit i next ih => exact (inner i).append (ih () h)
  | ask q answer ih => exact fun a => ⟨congrArg (Course.flatMap f) (h a).1, ih a (h a).2⟩

theorem Narrows.mapItem (h : c.Narrows) (f : Interval → Item) : (c.mapItem f).Narrows :=
  h.flatMap fun i => narrows_ofItem (f i)

theorem Narrows.compressFrom (h : c.Narrows) (pending : Option Interval) :
    (c.compressFrom pending).Narrows := by
  induction c generalizing pending with
  | done => cases pending <;> trivial
  | fail e => cases pending <;> trivial
  | emit i next ih =>
      unfold Course.compressFrom
      split
      · exact ih () h pending
      · split
        · exact ih () h (some i)
        · split
          · exact ih () h _
          · exact ih () h (some i)
  | ask q answer ih =>
      exact fun a => ⟨congrArg (Course.compressFrom pending) (h a).1, ih a (h a).2 pending⟩

end Composition

section Runs
variable {c : Course Request Answer} (source : Source σ)

theorem Narrows.items_eq (h : c.Narrows) (s : σ) :
    c.items source.narrowed s = c.items source s := by
  induction c generalizing s with
  | done => rfl
  | fail e next ih | emit i next ih =>
      change (_ :: ((next ()).items source.narrowed s).1, ((next ()).items source.narrowed s).2) = _
      rw [ih () h s]
      rfl
  | ask q answer ih =>
      change (answer (q.narrow (source q s).1)).items source.narrowed (source q s).2 = _
      rw [(h _).1]
      exact ih _ (h _).2 _

theorem Narrows.subsample_eq (h : c.Narrows) (series : List Sample) (s : σ) :
    (c.subsample source.narrowed series s).1 = (c.subsample source series s).1 := by
  rw [Course.subsample_eq, Course.subsample_eq, h.items_eq]

end Runs

end Course

/-! ## Expressions -/

theorem Sample.narrows_steps (stop start : Tick) (value : Float) (samples : List Sample) :
    (steps stop start value samples).Narrows := by
  induction samples generalizing start value with
  | nil => trivial
  | cons s later ih =>
      unfold steps
      split
      · split
        · exact ih start s.value
        · exact ih s.timestamp s.value
      · trivial

theorem Sample.narrows_course (cut : Cut) (r : Request) (answer : Answer) :
    (course cut r answer).Narrows := by
  cases answer with
  | error e => trivial
  | ok samples =>
      unfold course
      dsimp only
      split
      · trivial
      · exact narrows_steps _ _ _ _

theorem Expr.narrows_course (e : Expr) (t0 t1 : Tick) : (e.course t0 t1).Narrows := by
  unfold course
  induction e using evaluationInduction generalizing t0 t1 with
  | literal value =>
      rw [courseBy]
      split <;> trivial
  | name name =>
      rw [courseBy]
      split
      · rename_i lt
        intro answer
        exact ⟨Sample.course_narrow (r := ⟨name, t0, t1⟩) lt answer, Sample.narrows_course _ _ _⟩
      · trivial
  | unary op operand ih =>
      rw [courseBy]
      exact (ih t0 t1).mapItem op.over
  | binary op left right ihl ihr =>
      rw [courseBy]
      exact (ihl t0 t1).flatMap fun i => (ihr i.start i.stop).mapItem (op.over i.value)
  | call name args =>
      rw [courseBy]
      split <;> trivial

end SpanQuery
