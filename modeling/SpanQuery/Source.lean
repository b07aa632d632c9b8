import SpanQuery.Sample

namespace SpanQuery

/-- A supplier of samples that keeps a state of type `σ`. -/
abbrev Source (σ : Type) := Request → StateM σ Answer

namespace Source

def logged (source : Source σ) : Source (List Request × σ) :=
  fun r (log, s) =>
    let (answer, s) := source r s
    (answer, (log ++ [r], s))

/-- A source that can be out of service, with a reason that is given to everybody who asks. -/
def interruptible (source : Source σ) : Source (Option String × σ) :=
  fun r (outage, s) =>
    match outage with
    | some reason => (.error (.unavailable reason), (outage, s))
    | none =>
        let (answer, s) := source r s
        (answer, (none, s))

end Source

end SpanQuery
