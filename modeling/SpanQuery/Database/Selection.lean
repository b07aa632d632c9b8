import SpanQuery.Database

/-!
# Selected readings

A table of samples is read by two statements. They compare times cell by cell, as a relational
database with loose typing does, and sort what they select.
-/

namespace SpanQuery

namespace Cell

/-- The place of a storage class in the order of cells. A real that is no number counts as absent. -/
def rank : Cell → Nat
  | .null => 0
  | .integer _ => 1
  | .real x => if (number? (.real x)).isSome then 1 else 0
  | .text _ => 2
  | .blob _ => 3

def bytes : Cell → Text.Bytes
  | .text s => Text.encode s
  | .blob bytes => bytes
  | _ => []

/-- Absent cells come first, then numbers, then texts, then other bytes. -/
instance : Ord Cell where
  compare := compareLex (compareOn rank)
    (compareLex (compareOn fun c => c.number?.getD 0) (compareOn bytes))

/-- Whether a comparison with a tick has such an outcome. With an absent cell it has none. -/
def meets (c : Cell) (outcome : Ordering → Bool) (t : Tick) : Bool :=
  c.rank != 0 && outcome (compare c (.integer t))

end Cell

namespace Database

structure Row where
  number : Nat
  reading : Reading

namespace Row

/-- `ORDER BY time, rowid` -/
def earliestFirst : Row → Row → Ordering :=
  compareLex (compareOn (·.reading.time)) (compareOn (·.number))

/-- `ORDER BY time DESC, rowid DESC` -/
def latestFirst : Row → Row → Ordering :=
  compareLex (fun a b => compare b.reading.time a.reading.time)
    (fun a b => compare b.number a.number)

end Row

def numbered (readings : List Reading) : List Row :=
  readings.zipIdx.map fun (reading, n) => ⟨n + 1, reading⟩

def select (rows : List Row) (condition : Row → Bool) (order : Row → Row → Ordering) : List Row :=
  (rows.filter condition).mergeSort fun a b => (order a b).isLE

/-- `WHERE time <= t0 ORDER BY time DESC, rowid DESC LIMIT 1` -/
def anchor (rows : List Row) (t0 : Tick) : List Row :=
  (select rows (·.reading.time.meets (·.isLE) t0) Row.latestFirst).take 1

/-- `WHERE time > t0 AND time < t1 ORDER BY time, rowid` -/
def inside (rows : List Row) (t0 t1 : Tick) : List Row :=
  select rows (fun r => r.reading.time.meets (·.isGT) t0 && r.reading.time.meets (·.isLT) t1)
    Row.earliestFirst

end Database

end SpanQuery
