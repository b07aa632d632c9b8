import SpanQuery.Memory
import SpanQuery.Proofs.Evaluation.Coverage

namespace SpanQuery

open Course

/-! ## The judgment -/

def UnaryOp.kind : UnaryOp → ValueKind
  | plus | neg => .number
  | not => .boolean

def BinaryOp.operandKind : BinaryOp → ValueKind
  | and | or => .boolean
  | gt | gte | eq | ne | lt | lte | add | sub | mul | div | floorDiv | mod | pow => .number

def BinaryOp.resultKind : BinaryOp → ValueKind
  | and | or | gt | gte | eq | ne | lt | lte => .boolean
  | add | sub | mul | div | floorDiv | mod | pow => .number

namespace Expr

inductive HasKind : Expr → ValueKind → Prop where
  | literal (value : Float) : HasKind (.literal value) .number
  | name (name : String) : HasKind (.variable name) .number
  | unary {op : UnaryOp} {operand : Expr} :
      HasKind operand op.kind → HasKind (.unary op operand) op.kind
  | binary {op : BinaryOp} {left right : Expr} :
      HasKind left op.operandKind → HasKind right op.operandKind →
      HasKind (.binary op left right) op.resultKind

def hasCall : Expr → Bool
  | .literal _ | .variable _ => false
  | .unary _ e => e.hasCall
  | .binary _ l r => l.hasCall || r.hasCall
  | .call _ _ => true

theorem HasKind.hasCall_eq {e : Expr} {k : ValueKind} (h : e.HasKind k) : e.hasCall = false := by
  induction h with
  | literal => rfl
  | name => rfl
  | unary _ ih => exact ih
  | binary _ _ ihl ihr => rw [hasCall, ihl, ihr, Bool.or_self]

end Expr

/-! ## Operators -/

/-- A result of the kind, or the one fault that kinds do not exclude. -/
def ValueKind.Admits (k : ValueKind) : Except ValueFault Value → Prop
  | .ok v => v.kind = k
  | .error fault => fault = .zeroDivisor

theorem Value.exists_number {v : Value} (h : v.kind = .number) : ∃ a, v = .number a := by
  cases v with
  | number a => exact ⟨a, rfl⟩
  | bool b => cases h

theorem Value.exists_bool {v : Value} (h : v.kind = .boolean) : ∃ b, v = .bool b := by
  cases v with
  | number a => cases h
  | bool b => exact ⟨b, rfl⟩

theorem UnaryOp.apply_kind {op : UnaryOp} {v : Value} (h : v.kind = op.kind) :
    op.kind.Admits (op.apply v) := by
  cases op with
  | not =>
      obtain ⟨b, rfl⟩ := Value.exists_bool h
      rfl
  | plus | neg =>
      obtain ⟨a, rfl⟩ := Value.exists_number h
      rfl

theorem UnaryOp.apply_of_kind_ne {op : UnaryOp} {v : Value} (h : v.kind ≠ op.kind) :
    ∃ fault, op.apply v = .error fault := by
  cases v <;> cases op <;> first | exact ⟨_, rfl⟩ | exact absurd rfl h

theorem BinaryOp.apply_kind {op : BinaryOp} {l r : Value} (hl : l.kind = op.operandKind)
    (hr : r.kind = op.operandKind) : op.resultKind.Admits (op.apply l r) := by
  cases op with
  | and | or =>
      obtain ⟨a, rfl⟩ := Value.exists_bool hl
      obtain ⟨b, rfl⟩ := Value.exists_bool hr
      rfl
  | div | floorDiv | mod =>
      obtain ⟨a, rfl⟩ := Value.exists_number hl
      obtain ⟨b, rfl⟩ := Value.exists_number hr
      change ValueKind.Admits _ (if b == 0.0 then _ else _)
      split <;> rfl
  | _ =>
      obtain ⟨a, rfl⟩ := Value.exists_number hl
      obtain ⟨b, rfl⟩ := Value.exists_number hr
      rfl

theorem BinaryOp.apply_of_kind_ne {op : BinaryOp} {l r : Value}
    (h : ¬ (l.kind = op.operandKind ∧ r.kind = op.operandKind)) :
    ∃ fault, op.apply l r = .error fault := by
  cases l <;> cases r <;> cases op <;> first | exact ⟨_, rfl⟩ | exact absurd ⟨rfl, rfl⟩ h

/-! ## Contracts -/

def QueryError.isKindFault : QueryError → Bool
  | .evaluation (.typeMismatch _ _ _) | .evaluation (.unsupportedFunction _) => true
  | _ => false

namespace Course.Contract

/-- Every value is of the kind, and no error is one of kinds. -/
def kinded (k : ValueKind) : Contract Request Answer where
  asks _ _ _ := True
  answers _ _ := True
  gives i := i.value.kind = k
  fails _ _ e := e.isKindFault = false

def valueless : Contract Request Answer where
  asks _ _ _ := True
  answers _ _ := True
  gives _ := False
  fails _ _ _ := True

theorem kinded_passes (k k' : ValueKind) (start stop : Tick) :
    (kinded k).Passes (kinded k') start stop :=
  ⟨fun _ _ _ => id, id, fun _ _ _ => id⟩

theorem kinded_passes_valueless (k : ValueKind) (start stop : Tick) :
    (kinded k).Passes valueless start stop :=
  ⟨fun _ _ _ => id, id, fun _ _ _ _ => trivial⟩

theorem kinded_admits {k : ValueKind} {result : Except ValueFault Value} (h : k.Admits result)
    (i : Interval) : (kinded k).Admits i.start i.stop (i.withResult result) := by
  cases result with
  | ok v => exact ⟨rfl, rfl, h⟩
  | error fault =>
      obtain rfl : fault = .zeroDivisor := h
      rfl

theorem valueless_admits {result : Except ValueFault Value} (h : ∃ fault, result = .error fault)
    (i : Interval) : valueless.Admits i.start i.stop (i.withResult result) := by
  obtain ⟨fault, rfl⟩ := h
  trivial

theorem kinded_served (k : ValueKind) (source : Source σ) :
    (kinded k).Served (fun _ => True) source :=
  fun _ _ _ _ _ _ _ => ⟨trivial, trivial⟩

theorem valueless_served (source : Source σ) : valueless.Served (fun _ => True) source :=
  fun _ _ _ _ _ _ _ => ⟨trivial, trivial⟩

end Course.Contract

/-! ## Courses -/

namespace Expr

theorem HasKind.keeps_courseBy (cut : Sample.Cut) {e : Expr} {k : ValueKind} (h : e.HasKind k)
    {t0 t1 : Tick} (lt : t0 < t1) : Keeps (.kinded k) t1 t0 (e.courseBy cut t0 t1) := by
  induction h generalizing t0 t1 with
  | literal value =>
      rw [courseBy, if_pos lt]
      exact .emit rfl lt Int64.le_rfl rfl .done
  | name name =>
      rw [courseBy, if_pos lt]
      refine .ask lt Int64.le_rfl trivial fun answer _ => ?_
      exact Sample.keeps_course (r := ⟨name, t0, t1⟩) (fun _ _ _ => rfl) cut lt (fun _ => rfl) rfl
        answer
  | unary _ ih =>
      rw [courseBy]
      refine (ih lt).mapItem (.refl _ _ _) fun i _ _ _ operandKind => ?_
      exact Contract.kinded_admits (UnaryOp.apply_kind operandKind) i
  | @binary op left right _ _ ihl ihr =>
      rw [courseBy]
      refine (ihl lt).flatMap (Contract.kinded_passes _ _ _ _) fun i _ hi _ leftKind => ?_
      refine (ihr hi).mapItem (Contract.kinded_passes _ _ _ _) fun j _ _ _ rightKind => ?_
      exact Contract.kinded_admits (BinaryOp.apply_kind leftKind rightKind) j

theorem keeps_courseBy_of_unkinded (cut : Sample.Cut) {e : Expr} (unkinded : ∀ k, ¬ e.HasKind k)
    {t0 t1 : Tick} (lt : t0 < t1) : Keeps .valueless t1 t0 (e.courseBy cut t0 t1) := by
  induction e using evaluationInduction generalizing t0 t1 with
  | literal value => exact absurd (.literal value) (unkinded _)
  | name name => exact absurd (.name name) (unkinded _)
  | unary op operand ih =>
      rw [courseBy]
      by_cases kinded : ∃ k, operand.HasKind k
      · obtain ⟨k, kinded⟩ := kinded
        have other : k ≠ op.kind := fun same => unkinded _ (.unary (same ▸ kinded))
        refine (kinded.keeps_courseBy cut lt).mapItem (Contract.kinded_passes_valueless _ _ _) ?_
        intro i _ _ _ operandKind
        refine Contract.valueless_admits (UnaryOp.apply_of_kind_ne ?_) i
        exact fun same => other (operandKind.symm.trans same)
      · exact (ih (not_exists.1 kinded) lt).mapItem (.refl _ _ _) fun _ _ _ _ => False.elim
  | binary op left right ihl ihr =>
      rw [courseBy]
      by_cases leftKinded : ∃ k, left.HasKind k
      · obtain ⟨l, leftKinded⟩ := leftKinded
        refine (leftKinded.keeps_courseBy cut lt).flatMap (Contract.kinded_passes_valueless _ _ _)
          fun i _ hi _ leftKind => ?_
        by_cases rightKinded : ∃ k, right.HasKind k
        · obtain ⟨r, rightKinded⟩ := rightKinded
          have other : ¬ (l = op.operandKind ∧ r = op.operandKind) := by
            rintro ⟨rfl, rfl⟩
            exact unkinded _ (.binary leftKinded rightKinded)
          refine (rightKinded.keeps_courseBy cut hi).mapItem
            (Contract.kinded_passes_valueless _ _ _) fun j _ _ _ rightKind => ?_
          refine Contract.valueless_admits (BinaryOp.apply_of_kind_ne ?_) j
          rintro ⟨hl, hr⟩
          exact other ⟨leftKind.symm.trans hl, rightKind.symm.trans hr⟩
        · exact (ihr (not_exists.1 rightKinded) hi).mapItem (.refl _ _ _)
            fun _ _ _ _ => False.elim
      · exact (ihl (not_exists.1 leftKinded) lt).flatMap (.refl _ _ _) fun _ _ _ _ => False.elim
  | call name args =>
      rw [courseBy, if_pos lt]
      exact .fail lt Int64.le_rfl trivial rfl

/-! ## Items -/

variable {e : Expr} {t0 t1 : Tick}

theorem HasKind.of_mem_items {k : ValueKind} (kinded : e.HasKind k) (cut : Sample.Cut)
    (source : Source σ) (s : σ) (lt : t0 < t1) {item : Item}
    (mem : item ∈ ((e.courseBy cut t0 t1).items source s).1) :
    (∀ i, item = .ok i → i.value.kind = k) ∧
      ∀ fault, item = .error fault → fault.isKindFault = false := by
  obtain ⟨reach, spans, ending, run, -, -, kinds, ends⟩ :=
    (kinded.keeps_courseBy cut lt).items (Contract.kinded_served k source) (s := s) trivial
  rw [run] at mem
  rcases List.mem_append.1 mem with mem | mem
  · obtain ⟨j, given, rfl⟩ := List.mem_map.1 mem
    refine ⟨fun i same => ?_, fun fault same => ?_⟩
    · exact Except.ok.inj same ▸ kinds j given
    · cases same
  · rcases ends with ⟨rfl, -⟩ | ⟨e', last, rfl, -, -, fails⟩
    · cases mem
    · obtain rfl := List.mem_singleton.1 mem
      refine ⟨fun i same => ?_, fun fault same => ?_⟩
      · cases same
      · exact Except.error.inj same ▸ fails

theorem items_of_unkinded (unkinded : ∀ k, ¬ e.HasKind k) (cut : Sample.Cut) (source : Source σ)
    (s : σ) (lt : t0 < t1) :
    ∃ fault, ((e.courseBy cut t0 t1).items source s).1 = [.error fault] := by
  obtain ⟨reach, spans, ending, run, tiles, -, none, ends⟩ :=
    (e.keeps_courseBy_of_unkinded cut unkinded lt).items (Contract.valueless_served source)
      (s := s) trivial
  obtain rfl : spans = [] := List.eq_nil_iff_forall_not_mem.2 none
  obtain rfl : t0 = reach := tiles
  rcases ends with ⟨-, rfl⟩ | ⟨fault, last, rfl, -⟩
  · exact absurd lt Int64.lt_irrefl
  · exact ⟨fault, run⟩

end Expr

/-- With a kind, an expression gives values of that kind and fails neither for a kind nor for a
call; without one, or with a call anywhere, it gives nothing but one error. -/
theorem items_kinds (cut : Sample.Cut) (e : Expr) (source : Source σ) (s : σ) {t0 t1 : Tick}
    (lt : t0 < t1) :
    let items := ((e.courseBy cut t0 t1).items source s).1
    (∀ k, e.HasKind k →
      (∀ i, .ok i ∈ items → i.value.kind = k) ∧
      (∀ operator expected found,
        .error (.evaluation (.typeMismatch operator expected found)) ∉ items) ∧
      ∀ name, .error (.evaluation (.unsupportedFunction name)) ∉ items) ∧
    ((∀ k, ¬ e.HasKind k) ∨ e.hasCall → ∃ fault, items = [.error fault]) := by
  intro items
  constructor
  · intro k kinded
    have value : ∀ i, .ok i ∈ items → i.value.kind = k := fun i mem =>
      (kinded.of_mem_items cut source s lt mem).1 i rfl
    have fault : ∀ f, .error f ∈ items → f.isKindFault = false := fun f mem =>
      (kinded.of_mem_items cut source s lt mem).2 f rfl
    refine ⟨value, fun operator expected found mem => ?_, fun name mem => ?_⟩
    · cases fault _ mem
    · cases fault _ mem
  · intro h
    refine Expr.items_of_unkinded ?_ cut source s lt
    rcases h with unkinded | call
    · exact unkinded
    · intro k kinded
      rw [kinded.hasCall_eq] at call
      cases call

theorem items_kinds_sum :
    (0 : Tick) < 10 ∧
      let m := (Memory.empty.push "A" ⟨0, 1⟩).push "A" ⟨5, 2⟩
      let above : Expr := .binary .gt (.variable "A") (.literal 1)
      above.HasKind .boolean ∧
      (∀ i, .ok i ∈ ((above.courseBy Sample.firstCut 0 10).items Memory.source m).1 →
        i.value.kind = .boolean) ∧
      let sum : Expr := .binary .add (.variable "A") above
      (∀ k, ¬ sum.HasKind k) ∧
      ∃ fault, ((sum.courseBy Sample.firstCut 0 10).items Memory.source m).1 = [.error fault] := by
  have lt : (0 : Tick) < 10 := by decide
  have kinded : (Expr.binary .gt (.variable "A") (.literal 1)).HasKind .boolean :=
    @Expr.HasKind.binary .gt _ _ (.name _) (.literal _)
  have unkinded : ∀ k, ¬ (Expr.binary .add (.variable "A")
      (.binary .gt (.variable "A") (.literal 1))).HasKind k := by
    intro k sum
    cases sum with
    | binary _ right => nomatch right
  exact ⟨lt, kinded, ((items_kinds _ _ _ _ lt).1 _ kinded).1, unkinded,
    (items_kinds _ _ _ _ lt).2 (.inl unkinded)⟩

end SpanQuery
