import SpanQuery.Course
import SpanQuery.Sample

namespace SpanQuery.Course

def subsample [Monad m] (asking : ρ → m α) :
    Course ρ α → List Sample → m (Except QueryError (List Sample))
  | _, [] => pure (.ok [])
  | done, _ => pure (.ok [])
  | fail e _, _ => pure (.error e)
  | emit i next, series => do
      let (kept, later) := (series.dropWhile (·.timestamp < i.start)).span (·.timestamp ≤ i.stop)
      return (← (next ()).subsample asking later).map (kept ++ ·)
  | ask q answer, s :: series => do (answer (← asking q)).subsample asking (s :: series)

end SpanQuery.Course
