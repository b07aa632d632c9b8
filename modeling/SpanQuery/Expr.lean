import SpanQuery.Decimal.Layout

namespace SpanQuery

inductive BinaryOp where
  | add
  | sub
  | mul
  | div
  /-- Quotient rounded down. -/
  | floorDiv
  /-- Remainder with the sign of the divisor. -/
  | mod
  | pow
  | gt
  | gte
  | eq
  | ne
  | lt
  | lte
  | and
  | or
  deriving Repr, DecidableEq

namespace BinaryOp

def all : List BinaryOp :=
  [add, sub, mul, div, floorDiv, mod, pow, gt, gte, eq, ne, lt, lte, and, or]

def symbol : BinaryOp → String
  | add => "+"
  | sub => "-"
  | mul => "*"
  | div => "/"
  | floorDiv => "//"
  | mod => "%"
  | pow => "**"
  | gt => ">"
  | gte => ">="
  | eq => "=="
  | ne => "!="
  | lt => "<"
  | lte => "<="
  | and => "&&"
  | or => "||"

def tag : BinaryOp → String
  | add => "add"
  | sub => "sub"
  | mul => "mul"
  | div => "div"
  | floorDiv => "floor_div"
  | mod => "mod"
  | pow => "pow"
  | gt => "gt"
  | gte => "gte"
  | eq => "eq"
  | ne => "ne"
  | lt => "lt"
  | lte => "lte"
  | and => "and"
  | or => "or"

/-- Binding strength from 1 to 6; a greater one binds tighter, equal ones group to the left. -/
def precedence : BinaryOp → Nat
  | or => 1
  | and => 2
  | eq | ne | lt | lte | gt | gte => 3
  | add | sub => 4
  | mul | div | floorDiv | mod => 5
  | pow => 6

def ofSymbol? (s : String) : Option BinaryOp :=
  all.find? (·.symbol == s)

def ofTag? (s : String) : Option BinaryOp :=
  all.find? (·.tag == s)

theorem precedence_pos (op : BinaryOp) : 0 < op.precedence := by
  cases op <;> decide

end BinaryOp

inductive UnaryOp where
  | plus
  | neg
  | not
  deriving Repr, DecidableEq

namespace UnaryOp

def all : List UnaryOp := [plus, neg, not]

def symbol : UnaryOp → String
  | plus => "+"
  | neg => "-"
  | not => "!"

def tag : UnaryOp → String
  | plus => "plus"
  | neg => "neg"
  | not => "not"

def ofSymbol? (s : String) : Option UnaryOp :=
  all.find? (·.symbol == s)

def ofTag? (s : String) : Option UnaryOp :=
  all.find? (·.tag == s)

end UnaryOp

/-- A query over archived variables. A call can be written but has no meaning. -/
inductive Expr where
  | literal (value : Float)
  | variable (name : String)
  | unary (op : UnaryOp) (operand : Expr)
  | binary (op : BinaryOp) (left right : Expr)
  | call (name : String) (args : List Expr)

namespace Expr

def isLeaf : Expr → Bool
  | .literal _ | .variable _ => true
  | _ => false

/-- Induction over the nodes that evaluation visits; the arguments of a call are not among them. -/
@[elab_as_elim]
theorem evaluationInduction {motive : Expr → Prop} (literal : ∀ value, motive (.literal value))
    (name : ∀ name, motive (.variable name))
    (unary : ∀ op operand, motive operand → motive (.unary op operand))
    (binary : ∀ op left right, motive left → motive right → motive (.binary op left right))
    (call : ∀ name args, motive (.call name args)) : ∀ e, motive e
  | .literal value => literal value
  | .variable text => name text
  | .unary op operand =>
      unary op operand (evaluationInduction literal name unary binary call operand)
  | .binary op left right =>
      binary op left right (evaluationInduction literal name unary binary call left)
        (evaluationInduction literal name unary binary call right)
  | .call text args => call text args

mutual

def depth : Expr → Nat
  | .literal _ | .variable _ => 1
  | unary _ e => 1 + e.depth
  | binary _ l r => 1 + max l.depth r.depth
  | call _ args => 1 + depthOfAll args

def depthOfAll : List Expr → Nat
  | [] => 0
  | e :: es => max e.depth (depthOfAll es)

end

mutual

def occurrences : Expr → List String
  | literal _ => []
  | .variable name => [name]
  | unary _ e => e.occurrences
  | binary _ l r => l.occurrences ++ r.occurrences
  | call _ args => occurrencesInAll args

def occurrencesInAll : List Expr → List String
  | [] => []
  | e :: es => e.occurrences ++ occurrencesInAll es

end

def variableNames (e : Expr) : List String :=
  e.occurrences.eraseDups

mutual

def chars : Expr → List Char
  | literal value => Layout.plain.chars value
  | .variable name => name.toList
  | unary op e => op.symbol.toList ++ e.chars
  | binary op l r => '(' :: l.chars ++ ' ' :: op.symbol.toList ++ ' ' :: r.chars ++ [')']
  | call name args => name.toList ++ '(' :: charsOfArgs args ++ [')']

def charsOfArgs : List Expr → List Char
  | [] => []
  | [e] => e.chars
  | e :: es => e.chars ++ ',' :: ' ' :: charsOfArgs es

end

def text (e : Expr) : String :=
  String.ofList e.chars

end Expr

end SpanQuery
