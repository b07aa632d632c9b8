import SpanQuery.Calendar.Time
import SpanQuery.Command
import SpanQuery.Interval.Json
import SpanQuery.Sample

namespace SpanQuery

inductive Field where
  | tick (t : Tick)
  | text (s : String)
  | value (v : Value)

namespace Field

def toJson : Field → Json
  | tick t => Tick.toJson t
  | text s => .string s
  | value v => v.toJson

def plain : Field → String
  | tick t => Tick.text t
  | text s => s
  | value v => v.text

def record : Field → String
  | value (.number n) => Layout.record.text n
  | f => f.plain

end Field

abbrev Row := List (String × Field)

def Interval.row (zone : Calendar.Zone) (i : Interval) : Except TimeError Row := do
  let start ← Calendar.written true i.start zone
  let stop ← Calendar.written true i.stop zone
  return [("start", .tick i.start), ("end", .tick i.stop), ("start_time", .text start),
    ("end_time", .text stop), ("value", .value i.value)]

def Sample.row (zone : Calendar.Zone) (s : Sample) : Except TimeError Row := do
  let time ← Calendar.written true s.timestamp zone
  return [("timestamp", .tick s.timestamp), ("time", .text time),
    ("value", .value (.number s.value))]

/-- Rows with what a table shows of them: the names of some fields and the titles above them. -/
structure Listing where
  columns : List (String × String)
  rows : List Row

namespace Listing

def ofIntervals (zone : Calendar.Zone) (intervals : List Interval) : Except TimeError Listing := do
  let rows ← intervals.mapM (·.row zone)
  return ⟨[("start_time", "Start"), ("end_time", "End"), ("value", "Value")], rows⟩

def ofSamples (zone : Calendar.Zone) (name : String) (samples : List Sample) :
    Except TimeError Listing := do
  let rows ← samples.mapM (·.row zone)
  return ⟨[("time", "Time"), ("value", name)], rows⟩

def lines (texts : List String) : String :=
  String.join (texts.map (· ++ "\n"))

/-! ## Tables -/

def columnWidth : Nat := 26

def ruleWidth : Nat := 60

def padded (text : String) : String :=
  text ++ String.ofList (List.replicate (columnWidth - text.length) ' ')

def line : List String → String
  | [] => ""
  | [last] => last
  | text :: rest => padded text ++ " " ++ line rest

/-- A table with titles above a line that is as long as they are, counted in bytes. -/
def table (l : Listing) : String :=
  if l.rows.isEmpty then "No results.\n"
  else
    let titles := line (l.columns.map (·.2))
    let rule := String.ofList (List.replicate (max titles.utf8ByteSize ruleWidth) '-')
    let shown (row : Row) := l.columns.map fun (name, _) => ((row.lookup name).map Field.plain).getD ""
    lines (titles :: rule :: l.rows.map fun row => line (shown row))

/-! ## Formats -/

def json (l : Listing) : String :=
  let rows := l.rows.map fun row => Json.object (row.map fun (name, f) => (name, f.toJson))
  lines [String.ofList ((Json.array rows).pretty 0)]

/-- Records behind one with the names of the fields. Without rows there are no names either. No
field has a comma or a quote in it. -/
def csv (l : Listing) : String :=
  let names := l.rows.head?.toList.map (·.map (·.1))
  lines ((names ++ l.rows.map (·.map (·.2.record))).map (String.intercalate ","))

def text (l : Listing) : OutputFormat → String
  | .table => l.table
  | .json => l.json
  | .csv => l.csv

end Listing

end SpanQuery
