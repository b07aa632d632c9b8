import SpanQuery.Database.Selection
import SpanQuery.Keyed
import SpanQuery.Source

/-!
# Samples from a database

A channel is looked up once for each name and remembered as long as the database is open. An
archive may be split in two: a window that starts before the cutover is read from the history, and
from nothing else.
-/

namespace SpanQuery

structure Descriptor where
  id : Tick
  name : String
  dataType : Option Tick
  size : Option Tick
  active : Option Bool
  host : Option String
  deriving Repr, DecidableEq

namespace Cell

def toInteger? : Cell → Except FetchError (Option Tick)
  | .null => .ok none
  | .integer n => .ok (some n)
  | _ => .error .cellType

def toText? : Cell → Except FetchError (Option String)
  | .null => .ok none
  | .text s => .ok (some s)
  | _ => .error .cellType

def toText : Cell → Except FetchError String
  | .text s => .ok s
  | _ => .error .cellType

def toTick : Cell → Except FetchError Tick
  | .integer n => .ok n
  | _ => .error .cellType

def toReal : Cell → Except FetchError Float
  | .real x => .ok x
  | .integer n => .ok n.toFloat
  | _ => .error .cellType

end Cell

namespace Descriptor

def table (d : Descriptor) : String :=
  "table_" ++ Tick.text d.id

def ofChannel (c : Channel) : Except FetchError Descriptor := do
  let name ← c.name.toText
  let dataType ← c.dataType.toInteger?
  let size ← c.size.toInteger?
  let active ← c.active.toInteger?
  let host ← c.host.toText?
  .ok ⟨c.id, name, dataType, size, active.map (· ≠ 0), host⟩

end Descriptor

namespace Database

/-- The entry of the channel with the least id among those with that name. -/
def descriptor (db : Database) (name : String) : Except FetchError Descriptor :=
  match db.channels with
  | none => .error .database
  | some rows =>
      match rows.find? fun c => match c.name with
        | .text s => s == name
        | _ => false with
      | none => .error (.variableNotFound name)
      | some c => Descriptor.ofChannel c

/-- The names of the channels in the order of their bytes; a name may occur more than once. -/
def channelNames (db : Database) : Except FetchError (List String) :=
  match db.channels with
  | none => .error .database
  | some rows => do
      let names ← rows.mapM fun c => c.name.toText
      .ok (names.mergeSort fun a b => a ≤ b)

end Database

def Reading.toSample (r : Reading) : Except FetchError Sample := do
  .ok ⟨← r.time.toTick, ← r.value.toReal⟩

namespace Database

/-- The samples of a table that matter in a window: the last reading at or before its start, and
those inside. -/
def samples (readings : List Reading) (t0 t1 : Tick) : Answer :=
  let rows := numbered readings
  (anchor rows t0 ++ inside rows t0 t1).mapM (·.reading.toSample)

end Database

structure Connection where
  database : Database
  descriptors : Keyed Descriptor

namespace Connection

def ofDatabase (db : Database) : Connection := ⟨db, []⟩

def lookup (c : Connection) (name : String) : Except FetchError Descriptor × Connection :=
  match c.descriptors.get? name with
  | some d => (.ok d, c)
  | none =>
      match c.database.descriptor name with
      | .ok d => (.ok d, { c with descriptors := c.descriptors.put name d })
      | .error e => (.error e, c)

def fetch (c : Connection) (r : Request) : Answer × Connection :=
  let (d, c) := c.lookup r.name
  let answer := do
    match c.database.readings? (← d).id with
    | none => .error .database
    | some rows => Database.samples rows r.t0 r.t1
  (answer, c)

end Connection

structure SplitArchive where
  main : Connection
  history : Option (Tick × Connection)

namespace SplitArchive

def source : Source SplitArchive :=
  fun r a =>
    match a.history with
    | some (cutover, history) =>
        if r.t0 < cutover then
          let (answer, history) := history.fetch r
          (answer, { a with history := some (cutover, history) })
        else
          let (answer, main) := a.main.fetch r
          (answer, { a with main })
    | none =>
        let (answer, main) := a.main.fetch r
        (answer, { a with main })

end SplitArchive

end SpanQuery
