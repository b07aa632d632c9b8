import SpanQuery.Evaluation
import SpanQuery.Compression
import SpanQuery.Subsampling
import SpanQuery.Source
import SpanQuery.Expr.Parser

namespace SpanQuery

/-- A source, and whether every variable of a query is fetched over the whole window beforehand,
so that a cache can answer the requests of the evaluation. -/
structure Archive (σ : Type) where
  source : Source σ
  prefetch : Bool

def Expr.ofQuery? (text : String) : Except QueryError Expr :=
  (Expr.ofText? text).mapError .syntactic

namespace Archive

def warm (a : Archive σ) (e : Expr) (t0 t1 : Tick) : StateM σ Unit :=
  e.variableNames.forM fun name => discard (a.source ⟨name, t0, t1⟩)

def searchRanges (a : Archive σ) (e : Expr) (t0 t1 : Tick) : StateM σ (Course Request Answer) := do
  if a.prefetch then a.warm e t0 t1
  return e.course t0 t1

def findRanges (a : Archive σ) (e : Expr) (t0 t1 : Tick) : StateM σ (Course Request Answer) := do
  return (← a.searchRanges e t0 t1).compress

def findIntervals (a : Archive σ) (query : String) (t0 t1 : Tick) :
    StateM σ (Except QueryError (List Interval)) :=
  match Expr.ofQuery? query with
  | .error e => return .error e
  | .ok e => do (← a.findRanges e t0 t1).intervals a.source

/-- The samples of a window: the anchor, which is moved up to the start of the window if it was
recorded earlier, and all later ones. -/
def inWindow (samples : List Sample) (t0 t1 : Tick) : List Sample :=
  match (Sample.fromAnchor t0 samples).filter (·.timestamp < t1) with
  | [] => []
  | s :: later => { s with timestamp := max s.timestamp t0 } :: later

/-- The samples of a variable from `t0` up to `t1`; with a condition, those in the spans where it
is not false, their ends included. -/
def fetch (a : Archive σ) (r : Request) (condition : Option String) :
    StateM σ (Except QueryError (List Sample)) :=
  match condition.mapM Expr.ofQuery? with
  | .error e => return .error e
  | .ok condition => do
      match ← a.source r with
      | .error e => return .error (.fetch e)
      | .ok samples =>
          let samples := inWindow samples r.t0 r.t1
          match condition with
          | none => return .ok samples
          | some e => do (← a.findRanges e r.t0 r.t1).subsample a.source samples

end Archive

end SpanQuery
