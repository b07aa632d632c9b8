import SpanQuery.Decimal.Layout
import SpanQuery.Tick

namespace SpanQuery

inductive Value where
  | number (n : Float)
  | bool (b : Bool)

inductive ValueKind where
  | number
  | boolean
  deriving Repr, DecidableEq

def ValueKind.text : ValueKind → String
  | number => "number"
  | boolean => "boolean"

namespace Value

def kind : Value → ValueKind
  | number _ => .number
  | bool _ => .boolean

def number? : Value → Option Float
  | number n => some n
  | bool _ => none

def bool? : Value → Option Bool
  | bool b => some b
  | number _ => none

/-- A condition that does not hold; the number zero is no condition. -/
def isFalse : Value → Bool
  | bool false => true
  | _ => false

/-- Equality of two numbers or two truth values. Zeros are equal whatever their sign, and a value
that is no number equals nothing. -/
def same : Value → Value → Bool
  | number a, number b => a == b
  | bool a, bool b => a == b
  | _, _ => false

def text : Value → String
  | number n => Layout.plain.text n
  | bool b => if b then "true" else "false"

end Value

structure Interval where
  start : Tick
  stop : Tick
  value : Value

namespace Interval

/-- The length in ticks. There is none if the difference overflows, which ends the program. -/
def duration (i : Interval) : Option Tick :=
  Tick.ofInt? (i.stop.toInt - i.start.toInt)

def contains (i : Interval) (t : Tick) : Bool :=
  i.start ≤ t && t < i.stop

def text (i : Interval) : String :=
  "[" ++ Tick.text i.start ++ ", " ++ Tick.text i.stop ++ ") " ++ i.value.text

end Interval

end SpanQuery
