import SpanQuery.Course

/-!
# Compression

Of a course only the intervals in which a condition holds are of interest, and touching ones with
the same value count as one. The merged interval keeps the value of its first part. Nothing follows
an error.
-/

namespace SpanQuery

namespace Interval

/-- The two intervals as one, if the first ends where the second starts and they have the same
value. -/
def join? (i j : Interval) : Option Interval :=
  if i.stop = j.start ∧ i.value.same j.value then some { i with stop := j.stop } else none

end Interval

/-- A compression under way: what is left to draw from, an interval that is held back because the
next one may continue it, an error that waits until that interval is given out, and whether nothing
more will come. -/
structure Compression (ρ α : Type) where
  rest : Course ρ α
  pending : Option Interval
  failed : Option QueryError
  ended : Bool

namespace Compression

def start (c : Course ρ α) : Compression ρ α :=
  ⟨c, none, none, false⟩

def draw [Monad m] (asking : ρ → m α) (pending : Option Interval) :
    Course ρ α → m (Option Item × Compression ρ α)
  | .done => pure (pending.map .ok, ⟨.done, none, none, true⟩)
  | .fail e next =>
      match pending with
      | none => pure (some (.error e), ⟨next (), none, none, true⟩)
      | some p => pure (some (.ok p), ⟨next (), none, some e, false⟩)
  | .emit i next =>
      if i.value.isFalse then draw asking pending (next ())
      else
        match pending with
        | none => draw asking (some i) (next ())
        | some p =>
            match p.join? i with
            | some joined => draw asking (some joined) (next ())
            | none => pure (some (.ok p), ⟨next (), some i, none, false⟩)
  | .ask q answer => do draw asking pending (answer (← asking q))

def next [Monad m] (asking : ρ → m α) (c : Compression ρ α) :
    m (Option Item × Compression ρ α) :=
  match c.failed with
  | some e => pure (some (.error e), { c with failed := none, ended := true })
  | none => if c.ended then pure (none, c) else draw asking c.pending c.rest

end Compression

namespace Course

def flush (pending : Option Interval) (rest : Course ρ α) : Course ρ α :=
  match pending with
  | none => rest
  | some i => emit i fun _ => rest

/-- What a compression with a pending interval gives out, as a course of its own. -/
def compressFrom (pending : Option Interval) : Course ρ α → Course ρ α
  | done => flush pending done
  | fail e _ => flush pending (fail e fun _ => done)
  | emit i next =>
      if i.value.isFalse then (next ()).compressFrom pending
      else
        match pending with
        | none => (next ()).compressFrom (some i)
        | some p =>
            match p.join? i with
            | some joined => (next ()).compressFrom (some joined)
            | none => emit p fun u => (next u).compressFrom (some i)
  | ask q answer => ask q fun a => (answer a).compressFrom pending

def compress (c : Course ρ α) : Course ρ α :=
  c.compressFrom none

end Course

end SpanQuery
