import SpanQuery.Expr.Json
import SpanQuery.Proofs.Json.Number
import SpanQuery.Proofs.Token.Printed

namespace SpanQuery

theorem Json.ofFloat_eq {x : Float} (finite : x.isFinite) :
    ofFloat x = .number (Layout.json.chars x) :=
  if_pos finite

theorem Json.isNumber_chars {x : Float} (finite : x.isFinite) :
    IsNumber (Layout.json.chars x) := by
  change x.toModel.unpack.isFinite at finite
  have view := Binary64.ofFloat_eq x
  cases unpacked : x.toModel.unpack with
  | notANumber => rw [unpacked] at finite; cases finite
  | infinity s => rw [unpacked] at finite; cases finite
  | zero s => rw [unpacked] at view; exact .of_finite view
  | finite s m q pos => rw [unpacked] at view; exact .of_finite view

theorem Json.ofText?_ofFloat {x : Float} (finite : x.isFinite) :
    Json.ofText? (Layout.json.text x) = some (ofFloat x) := by
  have text := (IsText.number (isNumber_chars finite)).ofText?
  rw [ofFloat_eq finite]
  exact text.trans (if_pos (Nat.zero_le _))

@[simp] theorem UnaryOp.ofTag?_tag (op : UnaryOp) : ofTag? op.tag = some op := by
  cases op <;> rfl

@[simp] theorem BinaryOp.ofTag?_tag (op : BinaryOp) : ofTag? op.tag = some op := by
  cases op <;> rfl

namespace Expr

mutual

theorem valid_toJson (e : Expr) (finite : ∀ x ∈ e.literals, x.isFinite) : e.toJson.Valid := by
  cases e with
  | literal value =>
      have number := Json.isNumber_chars (finite value (List.mem_singleton_self value))
      rw [toJson, Json.ofFloat_eq (finite value (List.mem_singleton_self value))]
      exact .object (List.forall_mem_singleton.2 (.number number))
  | «variable» name => exact .object (List.forall_mem_singleton.2 (.string name))
  | unary op e =>
      refine .object (List.forall_mem_singleton.2 (.array ?_))
      exact List.forall_mem_cons.2 ⟨.string op.tag,
        List.forall_mem_singleton.2 (valid_toJson e finite)⟩
  | binary op l r =>
      have left := valid_toJson l fun x mem => finite x (List.mem_append_left _ mem)
      have right := valid_toJson r fun x mem => finite x (List.mem_append_right _ mem)
      refine .object (List.forall_mem_singleton.2 (.array ?_))
      exact List.forall_mem_cons.2 ⟨.string op.tag,
        List.forall_mem_cons.2 ⟨left, List.forall_mem_singleton.2 right⟩⟩
  | call name args =>
      refine .object (List.forall_mem_singleton.2 (.array ?_))
      exact List.forall_mem_cons.2 ⟨.string name,
        List.forall_mem_singleton.2 (.array (valid_toJsonArgs args finite))⟩

theorem valid_toJsonArgs (args : List Expr) (finite : ∀ x ∈ literalsInAll args, x.isFinite) :
    ∀ j ∈ toJsonArgs args, j.Valid := by
  cases args with
  | nil => exact List.forall_mem_nil _
  | cons e es =>
      have head := valid_toJson e fun x mem => finite x (List.mem_append_left _ mem)
      have tail := valid_toJsonArgs es fun x mem => finite x (List.mem_append_right _ mem)
      exact List.forall_mem_cons.2 ⟨head, tail⟩

end

mutual

theorem ofJson?_toJson (e : Expr)
    (readBack : ∀ x ∈ e.literals, (Json.ofFloat x).float? = some x) :
    ofJson? e.toJson = some e := by
  cases e with
  | literal value =>
      rw [toJson, ofJson?, readBack value (List.mem_singleton_self value)]
      rfl
  | «variable» name => rfl
  | unary op e =>
      rw [toJson, ofJson?, ofJson?_toJson e readBack]
      simp [tag?]
  | binary op l r =>
      have left := ofJson?_toJson l fun x mem => readBack x (List.mem_append_left _ mem)
      have right := ofJson?_toJson r fun x mem => readBack x (List.mem_append_right _ mem)
      simp [toJson, ofJson?, tag?, left, right]
  | call name args =>
      rw [toJson, ofJson?, ofJsonArgs?_toJsonArgs args readBack]
      rfl

theorem ofJsonArgs?_toJsonArgs (args : List Expr)
    (readBack : ∀ x ∈ literalsInAll args, (Json.ofFloat x).float? = some x) :
    ofJsonArgs? (toJsonArgs args) = some args := by
  cases args with
  | nil => rfl
  | cons e es =>
      have head := ofJson?_toJson e fun x mem => readBack x (List.mem_append_left _ mem)
      have tail := ofJsonArgs?_toJsonArgs es fun x mem => readBack x (List.mem_append_right _ mem)
      rw [toJsonArgs, ofJsonArgs?, head, tail]
      rfl

end

theorem ofText?_toJson {e : Expr} (finite : ∀ x ∈ e.literals, x.isFinite) {text : List Char}
    (written : text ∈ [e.toJson.compact, e.toJson.pretty 0]) :
    Json.ofText? (String.ofList text) =
      if e.toJson.depth ≤ Json.maxDepth then some e.toJson else none := by
  have valid := e.valid_toJson finite
  simp only [List.mem_cons, List.not_mem_nil, or_false] at written
  obtain rfl | rfl := written
  · exact valid.compact.ofText?
  · exact (valid.pretty 0).ofText?

/-- Either text of the JSON form is read as the expression. -/
theorem ofJson?_text {e : Expr} (finite : ∀ x ∈ e.literals, x.isFinite)
    (readBack : ∀ x ∈ e.literals, (Json.ofText? (Layout.json.text x) >>= Json.float?) = some x)
    (shallow : e.toJson.depth ≤ 127) :
    ∀ text ∈ [e.toJson.compact, e.toJson.pretty 0],
      (Json.ofText? (String.ofList text) >>= ofJson?) = some e := by
  intro text written
  have literals : ∀ x ∈ e.literals, (Json.ofFloat x).float? = some x := by
    intro x mem
    have reads := readBack x mem
    rwa [Json.ofText?_ofFloat (finite x mem)] at reads
  rw [ofText?_toJson finite written, if_pos (c := _ ≤ Json.maxDepth) shallow]
  exact ofJson?_toJson e literals

theorem ofJson?_text_escaped :
    let e : Expr := .binary .floorDiv (.unary .not (.variable "a\"b\\\n\x01\u00e9"))
      (.call "\x7f😀/" [.literal (-0.1), .call "" [], .literal 1e-7, .literal 2e22])
    (∀ x ∈ e.literals, x.isFinite) ∧
      (∀ x ∈ e.literals, (Json.ofText? (Layout.json.text x) >>= Json.float?) = some x) ∧
      e.toJson.depth ≤ 127 ∧
      ∀ text ∈ [e.toJson.compact, e.toJson.pretty 0],
        (Json.ofText? (String.ofList text) >>= ofJson?) = some e := by
  intro e
  have finite : ∀ x ∈ e.literals, x.isFinite := by
    change ∀ x ∈ [-0.1, 1e-7, 2e22], x.isFinite
    decide +kernel
  have readBack : ∀ x ∈ e.literals,
      (Json.ofText? (Layout.json.text x) >>= Json.float?) = some x := by
    change ∀ x ∈ [-0.1, 1e-7, 2e22], _
    decide +kernel
  have shallow : e.toJson.depth ≤ 127 := by decide +kernel
  exact ⟨finite, readBack, shallow, ofJson?_text finite readBack shallow⟩

end Expr

end SpanQuery
