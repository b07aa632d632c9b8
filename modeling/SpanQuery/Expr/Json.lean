import SpanQuery.Expr
import SpanQuery.Json.Reader

/-!
# The JSON form of expressions

An expression is an object with a single field that is named for the kind of its root: a number, a
name, or an array of the operator's tag or the name with the operands.
-/

namespace SpanQuery.Expr

mutual

def toJson : Expr → Json
  | .literal value => .object [("literal", Json.ofFloat value)]
  | .variable name => .object [("variable", .string name)]
  | .unary op e => .object [("unary", .array [.string op.tag, e.toJson])]
  | .binary op l r => .object [("binary", .array [.string op.tag, l.toJson, r.toJson])]
  | .call name args => .object [("call", .array [.string name, .array (toJsonArgs args)])]

def toJsonArgs : List Expr → List Json
  | [] => []
  | e :: es => e.toJson :: toJsonArgs es

end

/-- A tag stands alone or as the name of a field without a value. -/
def tag? : Json → Option String
  | .string tag => some tag
  | .object [(tag, .null)] => some tag
  | _ => none

mutual

def ofJson? : Json → Option Expr
  | .object [("literal", value)] => value.float?.map .literal
  | .object [("variable", .string name)] => some (.variable name)
  | .object [("unary", .array [op, e])] => do
      let op ← tag? op >>= UnaryOp.ofTag?
      some (.unary op (← ofJson? e))
  | .object [("binary", .array [op, l, r])] => do
      let op ← tag? op >>= BinaryOp.ofTag?
      some (.binary op (← ofJson? l) (← ofJson? r))
  | .object [("call", .array [.string name, .array args])] => do
      some (.call name (← ofJsonArgs? args))
  | _ => none

def ofJsonArgs? : List Json → Option (List Expr)
  | [] => some []
  | j :: js => do some ((← ofJson? j) :: (← ofJsonArgs? js))

end

end SpanQuery.Expr
