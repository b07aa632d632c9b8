import SpanQuery.Error

/-!
# Courses

A course is how an expression goes over a window: intervals one after the other, and between them
the questions that have to be answered before the next interval is known. It is a tree with one
branch for every answer, so what holds on all its branches holds for every source, whether it
fails, forgets or contradicts itself. What follows an interval is computed when it is asked for.

A course that was drawn from elsewhere may go on behind an error. An evaluation never does: each
part of it ends at its first error.
-/

namespace SpanQuery

abbrev Item := Except QueryError Interval

inductive Course (ρ α : Type) where
  | done
  | fail (e : QueryError) (next : Unit → Course ρ α)
  | emit (i : Interval) (next : Unit → Course ρ α)
  | ask (question : ρ) (answer : α → Course ρ α)

namespace Course

def ofItem : Item → Course ρ α
  | .ok i => emit i fun _ => done
  | .error e => fail e fun _ => done

/-- The first course up to its first error and, if there is none, the second. -/
def append : Course ρ α → (Unit → Course ρ α) → Course ρ α
  | done, rest => rest ()
  | fail e _, _ => fail e fun _ => done
  | emit i next, rest => emit i fun u => (next u).append rest
  | ask q answer, rest => ask q fun a => (answer a).append rest

/-- Every interval replaced by a course of its own, up to the first error. -/
def flatMap (f : Interval → Course ρ α) : Course ρ α → Course ρ α
  | done => done
  | fail e _ => fail e fun _ => done
  | emit i next => (f i).append fun u => (next u).flatMap f
  | ask q answer => ask q fun a => (answer a).flatMap f

def mapItem (f : Interval → Item) (c : Course ρ α) : Course ρ α :=
  c.flatMap fun i => ofItem (f i)

def pull [Monad m] (asking : ρ → m α) : Course ρ α → m (Option Item × Course ρ α)
  | done => pure (none, done)
  | fail e next => pure (some (.error e), next ())
  | emit i next => pure (some (.ok i), next ())
  | ask q answer => do (answer (← asking q)).pull asking

def items [Monad m] (asking : ρ → m α) : Course ρ α → m (List Item)
  | done => pure []
  | fail e next => do return .error e :: (← (next ()).items asking)
  | emit i next => do return .ok i :: (← (next ()).items asking)
  | ask q answer => do (answer (← asking q)).items asking

/-- The intervals, or the first error. What stands behind an error is not asked for. -/
def intervals [Monad m] (asking : ρ → m α) : Course ρ α → m (Except QueryError (List Interval))
  | done => pure (.ok [])
  | fail e _ => pure (.error e)
  | emit i next => do return (← (next ()).intervals asking).map (i :: ·)
  | ask q answer => do (answer (← asking q)).intervals asking

/-- A course that draws given items one by one, errors and what stands behind them included; a
question marks each draw. -/
def drawn : List Item → Course Unit Unit
  | [] => done
  | .error e :: rest => ask () fun _ => fail e fun _ => drawn rest
  | .ok i :: rest => ask () fun _ => emit i fun _ => drawn rest

end Course

end SpanQuery
