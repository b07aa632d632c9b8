import SpanQuery.Decimal.Binary64
import SpanQuery.Decimal.Reader
import SpanQuery.Interval
import SpanQuery.Text.Utf8

/-!
# Archive databases

An archive database has a directory of channels and, for each of them, a table of samples. Cells
have the storage classes of a relational database with loose typing: a column has an affinity that
converts what it can and keeps the rest as it is.
-/

namespace SpanQuery

inductive Cell where
  | null
  | integer (n : Tick)
  | real (x : Float)
  | text (s : String)
  | blob (bytes : Text.Bytes)
  deriving DecidableEq

namespace Cell

def isBlank (c : Char) : Bool :=
  c == ' ' || (9 ≤ c.toNat && c.toNat ≤ 13)

def trim (s : List Char) : List Char :=
  ((s.dropWhile isBlank).reverse.dropWhile isBlank).reverse

def whole? (x : Float) : Option Tick :=
  match Binary64.ofFloat x with
  | .finite negative m q =>
      if 0 ≤ q ∨ m % (1 <<< (-q).toNat) = 0 then
        let n : Int := Binary64.floorMagnitude m q
        if n ≤ Int64.maxValue.toInt then Tick.ofInt? (if negative then -n else n) else none
      else none
  | _ => none

/-- A whole number in units of the least positive double. -/
def units (n : Int) : Int :=
  n * (1 <<< 1074 : Nat)

/-- The number in a cell, in the same units; an infinite one lies beyond all others. -/
def number? : Cell → Option Int
  | .integer n => some (units n.toInt)
  | .real x =>
      let signed (negative : Bool) (n : Int) : Int := if negative then -n else n
      match Binary64.ofFloat x with
      | .finite negative m q => some (signed negative (Binary64.floorMagnitude m (q + 1074)))
      | .infinity negative => some (signed negative (Binary64.floorMagnitude 1 (1024 + 1074)))
      | .nan => none
  | _ => none

/-- A text as a number: an integer if it is written as one that fits in a word, else a real. -/
def numeric? (s : String) : Option Cell :=
  let s := trim s.toList
  let (negative, body) := Decimal.splitSign s
  if body.isEmpty then none
  else if body.all Char.isDigit then
    let n : Int := Decimal.natural body
    match Tick.ofInt? (if negative then -n else n) with
    | some n => some (.integer n)
    | none => (Decimal.unsigned? body).map fun x => .real (if negative then -x else x)
  else (Decimal.unsigned? body).map fun x => .real (if negative then -x else x)

/-- What a column for integers keeps: numbers in texts become numbers, and whole ones integers. -/
def asInteger : Cell → Cell
  | .real x => ((whole? x).map .integer).getD (.real x)
  | .text s =>
      match numeric? s with
      | some (.real x) => ((whole? x).map .integer).getD (.real x)
      | some cell => cell
      | none => .text s
  | cell => cell

/-- What a column for reals keeps: every number is a real, a zero has no sign, and what is no number
is absent. -/
def asReal : Cell → Cell
  | .real x => if x.isNaN then .null else if x == 0.0 then .real 0.0 else .real x
  | .integer n => .real n.toFloat
  | .text s =>
      match numeric? s with
      | some (.integer n) => .real n.toFloat
      | some cell => cell
      | none => .text s
  | .null => .null
  | .blob bytes => .blob bytes

def asText : Cell → Cell
  | .integer n => .text (Tick.text n)
  | cell => cell

end Cell

structure Channel where
  id : Tick
  name : Cell
  dataType : Cell
  size : Cell
  active : Cell
  host : Cell
  deriving DecidableEq

structure Reading where
  time : Cell
  value : Cell
  deriving DecidableEq

/-- The directory, unless it was dropped, in the order of the ids; and the tables of samples by the
ids of their channels. -/
structure Database where
  channels : Option (List Channel)
  tables : List (Tick × List Reading)
  deriving DecidableEq

namespace Database

def empty : Database := ⟨none, []⟩

def nextId (rows : List Channel) : Tick :=
  (rows.getLast?.map fun c => c.id + 1).getD 1

/-- A row of the directory from the cells that are given; the others are absent. A row without an
id gets the next one. -/
def channelOf (rows : List Channel) (cells : List Cell) : Option Channel :=
  let cell (i : Nat) := (cells[i]?).getD .null
  let id? := match (cell 0).asInteger with
    | .integer id => some id
    | .null => some (nextId rows)
    | _ => none
  id?.map fun id =>
    ⟨id, (cell 1).asText, (cell 2).asInteger, (cell 3).asInteger, (cell 4).asInteger,
      (cell 5).asText⟩

def insertChannel (c : Channel) : List Channel → List Channel
  | [] => [c]
  | d :: rest =>
      if c.id < d.id then c :: d :: rest
      else if c.id = d.id then c :: rest
      else d :: insertChannel c rest

def putChannel (db : Database) (cells : List Cell) : Database :=
  let rows := db.channels.getD []
  match channelOf rows cells with
  | some c => { db with channels := some (insertChannel c rows) }
  | none => db

def addTable (db : Database) (id : Tick) : Database :=
  { db with tables := db.tables ++ [(id, [])] }

def addReading (db : Database) (id : Tick) (time value : Cell) : Database :=
  let reading : Reading := ⟨time.asInteger, value.asReal⟩
  { db with tables := db.tables.map fun (other, rows) =>
      if other = id then (other, rows ++ [reading]) else (other, rows) }

def dropTable (db : Database) (id : Tick) : Database :=
  { db with tables := db.tables.filter (·.1 ≠ id) }

def dropChannels (db : Database) : Database :=
  { db with channels := none }

/-- The rows of a channel's table. A negative id makes no name of a table. -/
def readings? (db : Database) (id : Tick) : Option (List Reading) :=
  if id < 0 then none else db.tables.lookup id

end Database

end SpanQuery
