import SpanQuery.Interval
import SpanQuery.Json.Reader

namespace SpanQuery

def Tick.toJson (t : Tick) : Json :=
  Json.ofInt t.toInt

namespace Value

def toJson : Value → Json
  | .number n => Json.ofFloat n
  | .bool b => .bool b

def ofJson? : Json → Option Value
  | .bool b => some (.bool b)
  | j => j.float?.map .number

end Value

namespace Interval

def toJson (i : Interval) : Json :=
  .object [("start", Tick.toJson i.start), ("end", Tick.toJson i.stop), ("value", i.value.toJson)]

/-- The only field with that name; a repeated field is refused, other fields are not looked at. -/
def onlyField? (fields : List (String × Json)) (key : String) : Option Json :=
  match fields.filter (·.1 == key) with
  | [(_, j)] => some j
  | _ => none

def ofParts? (start stop value : Json) : Option Interval := do
  some ⟨← start.tick?, ← stop.tick?, ← Value.ofJson? value⟩

def ofJson? : Json → Option Interval
  | .array [start, stop, value] => ofParts? start stop value
  | .object fields => do
      ofParts? (← onlyField? fields "start") (← onlyField? fields "end")
        (← onlyField? fields "value")
  | _ => none

end Interval

end SpanQuery
