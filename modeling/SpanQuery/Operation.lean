import SpanQuery.Expr
import SpanQuery.Error
import SpanQuery.Decimal.Binary64

/-!
# Operators on values

Arithmetic and comparison take numbers, logic takes truth values. Logic evaluates both operands
before it looks at them, and a divisor of zero is an error for every operator that divides.
-/

namespace SpanQuery

inductive ValueFault where
  | mismatch (operator : String) (expected found : ValueKind)
  | zeroDivisor
  deriving Repr, DecidableEq

def ValueFault.over (start stop : Tick) : ValueFault → EvaluationError
  | mismatch operator expected found => .typeMismatch operator expected found
  | zeroDivisor => .divisionByZero start stop

def UnaryOp.apply : UnaryOp → Value → Except ValueFault Value
  | .plus, .number a => .ok (.number a)
  | .neg, .number a => .ok (.number (-a))
  | .not, .bool b => .ok (.bool !b)
  | .not, v => .error (.mismatch UnaryOp.not.symbol .boolean v.kind)
  | op, v => .error (.mismatch op.symbol .number v.kind)

namespace BinaryOp

/-- Both operands as truth values; the left one is blamed first. -/
def bools (op : BinaryOp) : Value → Value → Except ValueFault (Bool × Bool)
  | .bool a, .bool b => .ok (a, b)
  | .bool _, v | v, _ => .error (.mismatch op.symbol .boolean v.kind)

def numbers (op : BinaryOp) : Value → Value → Except ValueFault (Float × Float)
  | .number a, .number b => .ok (a, b)
  | .number _, v | v, _ => .error (.mismatch op.symbol .number v.kind)

def logic (op : BinaryOp) (f : Bool → Bool → Bool) (l r : Value) : Except ValueFault Value := do
  let (a, b) ← op.bools l r
  .ok (.bool (f a b))

def compare (op : BinaryOp) (f : Float → Float → Bool) (l r : Value) :
    Except ValueFault Value := do
  let (a, b) ← op.numbers l r
  .ok (.bool (f a b))

def compute (op : BinaryOp) (f : Float → Float → Float) (l r : Value) :
    Except ValueFault Value := do
  let (a, b) ← op.numbers l r
  .ok (.number (f a b))

def divide (op : BinaryOp) (f : Float → Float → Float) (l r : Value) :
    Except ValueFault Value := do
  let (a, b) ← op.numbers l r
  if b == 0.0 then .error .zeroDivisor else .ok (.number (f a b))

def apply (op : BinaryOp) : Value → Value → Except ValueFault Value :=
  match op with
  | .and => op.logic fun a b => a && b
  | .or => op.logic fun a b => a || b
  | .gt => op.compare fun a b => a > b
  | .gte => op.compare fun a b => a ≥ b
  | .eq => op.compare fun a b => a == b
  | .ne => op.compare fun a b => a != b
  | .lt => op.compare fun a b => a < b
  | .lte => op.compare fun a b => a ≤ b
  | .add => op.compute fun a b => a + b
  | .sub => op.compute fun a b => a - b
  | .mul => op.compute fun a b => a * b
  | .pow => op.compute Float.pow
  | .div => op.divide fun a b => a / b
  | .floorDiv => op.divide fun a b => (a / b).floor
  | .mod => op.divide flooredRemainder

end BinaryOp

end SpanQuery
