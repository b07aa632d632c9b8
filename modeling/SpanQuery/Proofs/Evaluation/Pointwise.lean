import SpanQuery.Memory
import SpanQuery.Proofs.Evaluation.Coverage
import SpanQuery.Proofs.Sample.Window

namespace SpanQuery

open Course

inductive PointFault where
  | fetch (e : FetchError)
  | unknownVariable (name : String)
  | operator (fault : ValueFault)
  | unsupportedFunction (name : String)

def PointFault.over (start stop : Tick) : PointFault → QueryError
  | fetch e => .fetch e
  | unknownVariable name => .evaluation (.unknownVariable name start)
  | operator fault => .evaluation (fault.over start stop)
  | unsupportedFunction name => .evaluation (.unsupportedFunction name)

def Memory.valueAt (m : Memory) (t : Tick) (name : String) : Except PointFault Value :=
  match m.samples? name with
  | none => .error (.fetch (.variableNotFound name))
  | some samples =>
      match Sample.current? t samples with
      | none => .error (.unknownVariable name)
      | some s => .ok (.number s.value)

/-- The value of an expression at a tick, the left operand before the right one. -/
def Expr.valueAt (m : Memory) (t : Tick) : Expr → Except PointFault Value
  | .literal value => .ok (.number value)
  | .variable name => m.valueAt t name
  | .unary op e => do
      let value ← e.valueAt m t
      (op.apply value).mapError .operator
  | .binary op l r => do
      let left ← l.valueAt m t
      let right ← r.valueAt m t
      (op.apply left right).mapError .operator
  | .call name _ => .error (.unsupportedFunction name)

def Course.Contract.pointwise (m : Memory) (value : Tick → Except PointFault Value) :
    Contract Request Answer where
  asks _ _ _ := True
  answers q a := a = m.answer q
  gives i := ∀ t, i.start ≤ t → t < i.stop → value t = .ok i.value
  fails start last e := ∃ fault, value start = .error fault ∧ e = fault.over start last

theorem Course.Contract.pointwise_served (m : Memory) (value : Tick → Except PointFault Value) :
    (pointwise m value).Served (· = m) Memory.source := by
  rintro start last q s - - rfl
  exact ⟨rfl, rfl⟩

theorem Course.Contract.pointwise_passes {m : Memory} {value more : Tick → Except PointFault Value}
    {start stop : Tick}
    (h : ∀ t fault, start ≤ t → t < stop → value t = .error fault → more t = .error fault) :
    (pointwise m value).Passes (pointwise m more) start stop where
  asks _ _ _ := id
  answers := id
  fails ht lt hlast := fun ⟨fault, here, e⟩ =>
    ⟨fault, h _ fault ht (Int64.lt_of_lt_of_le lt hlast) here, e⟩

theorem Course.Contract.pointwise_admits {m : Memory} {value : Tick → Except PointFault Value}
    {i : Interval} (lt : i.start < i.stop) {result : Except ValueFault Value}
    (h : ∀ t, i.start ≤ t → t < i.stop → value t = result.mapError .operator) :
    (pointwise m value).Admits i.start i.stop (i.withResult result) := by
  cases result with
  | ok v => exact ⟨rfl, rfl, h⟩
  | error fault => exact ⟨.operator fault, h i.start Int64.le_rfl lt, rfl⟩

/-! ## Variables -/

namespace Sample

def holding (value : Float) (samples : List Sample) (t : Tick) : Float :=
  ((current? t samples).map (·.value)).getD value

theorem holding_of_lt (value : Float) {samples : List Sample} {t : Tick}
    (h : ∀ s ∈ samples, t < s.timestamp) : holding value samples t = value := by
  have none_early : samples.filter (·.timestamp ≤ t) = [] := by
    rw [List.filter_eq_nil_iff]
    intro s hs
    simpa using h s hs
  rw [holding, current?, none_early]
  rfl

theorem holding_cons (value : Float) {s : Sample} (later : List Sample) {t : Tick}
    (h : s.timestamp ≤ t) : holding value (s :: later) t = holding s.value later t := by
  rw [holding, holding, current?, current?, List.filter_cons_of_pos (by simpa using h),
    List.getLast?_cons]
  cases (later.filter (·.timestamp ≤ t)).getLast? <;> rfl

theorem keeps_steps_pointwise {m : Memory} {meaning : Tick → Except PointFault Value}
    {samples : List Sample} (ordered : Ordered samples) {start stop : Tick} (lt : start < stop)
    {value : Float}
    (h : ∀ t, start ≤ t → t < stop → meaning t = .ok (.number (holding value samples t))) :
    Keeps (.pointwise m meaning) stop start (steps stop start value samples) := by
  induction samples generalizing start value with
  | nil =>
      refine .emit rfl lt Int64.le_rfl ?_ .done
      exact h
  | cons s later ih =>
      have rest := List.pairwise_cons.1 ordered
      unfold steps
      split
      · rename_i before
        split
        · rename_i early
          refine ih rest.2 lt fun t ht hstop => ?_
          rw [h t ht hstop, holding_cons value later (Int64.le_trans early ht)]
        · rename_i late
          have next : start < s.timestamp := Int64.not_le.1 late
          refine .emit rfl next (Int64.le_of_lt before) ?_ (ih rest.2 before fun t ht hstop => ?_)
          · intro t ht hs
            rw [h t ht (Int64.lt_trans hs before), holding_of_lt]
            intro u hu
            rcases List.mem_cons.1 hu with rfl | hu
            · exact hs
            · exact Int64.lt_of_lt_of_le hs (rest.1 u hu)
          · rw [h t (Int64.le_trans (Int64.le_of_lt next) ht) hstop, holding_cons value later ht]
      · rename_i beyond
        refine .emit rfl lt Int64.le_rfl ?_ .done
        intro t ht hstop
        rw [h t ht hstop, holding_of_lt]
        intro u hu
        have first : t < s.timestamp := Int64.lt_of_lt_of_le hstop (Int64.not_lt.1 beyond)
        rcases List.mem_cons.1 hu with rfl | hu
        · exact first
        · exact Int64.lt_of_lt_of_le first (rest.1 u hu)

theorem cut_firstCut (t : Tick) (samples : List Sample) :
    samples.take (firstCut t samples) = upTo t samples ∧
      samples.drop (firstCut t samples) = after t samples := by
  have whole := upTo_append_after t samples
  constructor
  · calc samples.take (firstCut t samples)
        = (upTo t samples ++ after t samples).take (upTo t samples).length := by rw [whole, firstCut]
      _ = upTo t samples := List.take_left
  · calc samples.drop (firstCut t samples)
        = (upTo t samples ++ after t samples).drop (upTo t samples).length := by rw [whole, firstCut]
      _ = after t samples := List.drop_left

theorem course_window (name : String) (samples : List Sample) {t0 t1 : Tick} (lt : t0 < t1) :
    (course firstCut ⟨name, t0, t1⟩ (.ok (window samples t0 t1)) : Course ρ α) =
      match (upTo t0 samples).getLast? with
      | none => .ofItem (.error (.evaluation (.unknownVariable name t0)))
      | some anchor =>
          steps t1 t0 anchor.value ((after t0 samples).takeWhile (·.timestamp < t1)) := by
  obtain ⟨early, late⟩ := cut_window samples lt
  simp only [course, cut_firstCut, early, late]
  cases (upTo t0 samples).getLast? <;> rfl

theorem valueAt_of_anchor {m : Memory} {name : String} {samples : List Sample} {anchor : Sample}
    (known : m.samples? name = some samples) {t0 t1 t : Tick}
    (h : (upTo t0 samples).getLast? = some anchor) (le : t0 ≤ t) (lt : t < t1) :
    m.valueAt t name = .ok (.number
      (holding anchor.value ((after t0 samples).takeWhile (·.timestamp < t1)) t)) := by
  have held := current?_window (m.ordered_samples? known) le lt
  rw [h] at held
  rw [Memory.valueAt, known, holding]
  simp only [held]
  cases current? t ((after t0 samples).takeWhile (·.timestamp < t1)) <;> rfl

theorem keeps_course_pointwise (m : Memory) (name : String) {t0 t1 : Tick} (lt : t0 < t1) :
    Keeps (.pointwise m (m.valueAt · name)) t1 t0
      (course firstCut ⟨name, t0, t1⟩ (m.answer ⟨name, t0, t1⟩)) := by
  cases known : m.samples? name with
  | none =>
      simp only [Memory.answer, known, course]
      refine .fail lt Int64.le_rfl ⟨.fetch (.variableNotFound name), ?_, rfl⟩ rfl
      show m.valueAt t0 name = _
      rw [Memory.valueAt, known]
  | some samples =>
      have ordered := m.ordered_samples? known
      have answer : m.answer ⟨name, t0, t1⟩ = .ok (window samples t0 t1) :=
        Memory.answer_of_known known
      rw [answer, course_window name samples lt]
      cases h : (upTo t0 samples).getLast? with
      | none =>
          refine .fail lt Int64.le_rfl ⟨.unknownVariable name, ?_, rfl⟩ rfl
          show m.valueAt t0 name = _
          rw [Memory.valueAt, known]
          simp only [current?_eq ordered, h]
      | some anchor =>
          refine keeps_steps_pointwise ?_ lt fun t le hstop => valueAt_of_anchor known h le hstop
          exact (ordered.after t0).sublist (List.takeWhile_sublist _)

end Sample

/-! ## Expressions -/

theorem Expr.keeps_course_pointwise (m : Memory) (e : Expr) {t0 t1 : Tick} (lt : t0 < t1) :
    Keeps (.pointwise m (e.valueAt m)) t1 t0 (e.course t0 t1) := by
  unfold course
  induction e using evaluationInduction generalizing t0 t1 with
  | literal value =>
      rw [courseBy, if_pos lt]
      exact .emit rfl lt Int64.le_rfl (fun t _ _ => rfl) .done
  | name name =>
      rw [courseBy, if_pos lt]
      refine .ask lt Int64.le_rfl trivial ?_
      rintro answer rfl
      exact Sample.keeps_course_pointwise m name lt
  | unary op operand ih =>
      rw [courseBy]
      refine (ih lt).mapItem (Contract.pointwise_passes fun t fault _ _ h => ?_) ?_
      · rw [valueAt, h]
        rfl
      · intro i _ hi _ operandValue
        refine Contract.pointwise_admits hi fun t le hstop => ?_
        have here : operand.valueAt m t = .ok i.value := operandValue t le hstop
        rw [valueAt, here]
        rfl
  | binary op left right ihl ihr =>
      rw [courseBy]
      refine (ihl lt).flatMap (Contract.pointwise_passes fun t fault _ _ h => ?_) ?_
      · rw [valueAt, h]
        rfl
      · intro i _ hi _ leftValue
        -- The right operand is evaluated inside an interval of the left one, whose value stays.
        refine (ihr hi).mapItem (Contract.pointwise_passes fun t fault le hstop h => ?_) ?_
        · have inLeft : left.valueAt m t = .ok i.value := leftValue t le hstop
          rw [valueAt, inLeft, h]
          rfl
        · intro j le hj hstop rightValue
          refine Contract.pointwise_admits hj fun t le' hstop' => ?_
          have inLeft : left.valueAt m t = .ok i.value :=
            leftValue t (Int64.le_trans le le') (Int64.lt_of_lt_of_le hstop' hstop)
          have inRight : right.valueAt m t = .ok j.value := rightValue t le' hstop'
          rw [valueAt, inLeft, inRight]
          rfl
  | call name args =>
      rw [courseBy, if_pos lt]
      exact .fail lt Int64.le_rfl ⟨.unsupportedFunction name, rfl, rfl⟩ rfl

/-- Items that say what an expression amounts to at every tick of a window: the intervals cover the
window up to `reach` and carry the values, and where `reach` lies before the end of the window it is
the first tick without a value, whose fault is the error behind the intervals. -/
def Agrees (m : Memory) (e : Expr) (t0 t1 : Tick) (items : List Item) : Prop :=
  ∃ (reach : Tick) (spans : List Interval) (ending : List Item),
    items = spans.map .ok ++ ending ∧
    t0 ≤ reach ∧ reach ≤ t1 ∧ Tiles t0 reach spans ∧
    (∀ t, t0 ≤ t → t < reach → ∃ value, e.valueAt m t = .ok value) ∧
    (∀ i ∈ spans, ∀ t, i.start ≤ t → t < i.stop → e.valueAt m t = .ok i.value) ∧
    (reach = t1 ∧ ending = [] ∨
      reach < t1 ∧ ∃ fault last, e.valueAt m reach = .error fault ∧ reach < last ∧ last ≤ t1 ∧
        ending = [.error (fault.over reach last)])

theorem items_agree (m : Memory) (e : Expr) {t0 t1 : Tick} (lt : t0 < t1) :
    Agrees m e t0 t1 ((e.course t0 t1).items Memory.source m).1 := by
  obtain ⟨reach, spans, ending, run, tiles, le, values, ends⟩ :=
    (e.keeps_course_pointwise m lt).items (Contract.pointwise_served m _) rfl
  refine ⟨reach, spans, ending, run, tiles.le, le, tiles, ?_, values, ?_⟩
  · intro t ht hreach
    obtain ⟨i, hi, hstart, hstop⟩ := (tiles.exists_mem_iff t).2 ⟨ht, hreach⟩
    exact ⟨i.value, values i hi t hstart hstop⟩
  · rcases ends with ⟨rfl, rfl⟩ | ⟨e', last, rfl, hlast, hstop, fault, here, rfl⟩
    · exact .inl ⟨rfl, rfl⟩
    · exact .inr ⟨Int64.lt_of_lt_of_le hlast hstop, fault, last, here, hlast, hstop, rfl⟩

theorem items_agree_quotient :
    (0 : Tick) < 10 ∧
      let m := ((Memory.empty.push "A" ⟨0, 1⟩).push "B" ⟨-3, 2⟩).push "B" ⟨5, 0⟩
      let e := Expr.binary .div (.variable "A") (.variable "B")
      Agrees m e 0 10 ((e.course 0 10).items Memory.source m).1 :=
  ⟨by decide, items_agree _ _ (by decide)⟩

end SpanQuery
