import SpanQuery.Course
import SpanQuery.Operation
import SpanQuery.Sample

/-!
# Evaluation over a window

The course of an expression covers its window with touching intervals of constant value. The right
operand of an infix operator is evaluated anew over every interval of the left one, and the samples
of a variable are asked for when its first interval is: no question is asked that the intervals
taken so far do not need.
-/

namespace SpanQuery

namespace Sample

/-- The intervals of a variable that has the value `value` at `start`, up to `stop`. Of samples at
one tick the last one counts. -/
def steps (stop start : Tick) (value : Float) : List Sample → Course ρ α
  | [] => .emit ⟨start, stop, .number value⟩ fun _ => .done
  | s :: later =>
      if s.timestamp < stop then
        if s.timestamp ≤ start then steps stop start s.value later
        else .emit ⟨start, s.timestamp, .number value⟩ fun _ =>
          steps stop s.timestamp s.value later
      else .emit ⟨start, stop, .number value⟩ fun _ => .done

/-- How many samples at the start of an answer count as not after a tick. An ordered answer leaves
no choice; where any other one is cut is left open. -/
abbrev Cut := Tick → List Sample → Nat

def firstCut : Cut := fun t samples =>
  (upTo t samples).length

def course (cut : Cut) (r : Request) : Answer → Course ρ α
  | .error e => .ofItem (.error (.fetch e))
  | .ok samples =>
      let anchored := cut r.t0 samples
      match (samples.take anchored).getLast? with
      | none => .ofItem (.error (.evaluation (.unknownVariable r.name r.t0)))
      | some anchor => steps r.t1 r.t0 anchor.value (samples.drop anchored)

end Sample

def Interval.withResult (i : Interval) : Except ValueFault Value → Item
  | .ok value => .ok { i with value }
  | .error fault => .error (.evaluation (fault.over i.start i.stop))

def UnaryOp.over (op : UnaryOp) (i : Interval) : Item :=
  i.withResult (op.apply i.value)

def BinaryOp.over (op : BinaryOp) (left : Value) (i : Interval) : Item :=
  i.withResult (op.apply left i.value)

/-- The course of an expression from `t0` up to `t1`, where answers are cut in the given way; an
empty window has nothing in it. -/
def Expr.courseBy (cut : Sample.Cut) (t0 t1 : Tick) : Expr → Course Request Answer
  | .literal value => if t0 < t1 then .ofItem (.ok ⟨t0, t1, .number value⟩) else .done
  | .variable name =>
      if t0 < t1 then .ask ⟨name, t0, t1⟩ (Sample.course cut ⟨name, t0, t1⟩) else .done
  | .unary op e => (e.courseBy cut t0 t1).mapItem op.over
  | .binary op l r =>
      (l.courseBy cut t0 t1).flatMap fun i =>
        (r.courseBy cut i.start i.stop).mapItem (op.over i.value)
  | .call name _ =>
      if t0 < t1 then .ofItem (.error (.evaluation (.unsupportedFunction name))) else .done

def Expr.course (t0 t1 : Tick) (e : Expr) : Course Request Answer :=
  e.courseBy Sample.firstCut t0 t1

end SpanQuery
