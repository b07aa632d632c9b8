import SpanQuery.Database.Image.Page
import SpanQuery.Text.Blank

/-!
# Databases in files

The first page of a database file starts with a head and holds a table of all tables, with the
number of the page at which each one starts and the statement that made it. What a statement says
about columns decides where the cells of a row belong.
-/

namespace SpanQuery

open Text (Bytes)

namespace Image

/-! ## Statements -/

def magic : Bytes := Text.encode "SQLite format 3" ++ [0]

def channelsStatement : String :=
  "CREATE TABLE channels(chan_id INTEGER PRIMARY KEY, name TEXT NOT NULL, type INTEGER,\n" ++
    "size INTEGER, active INTEGER, host TEXT)"

def tableName (id : Tick) : String :=
  "table_" ++ Tick.text id

def readingsStatement (id : Tick) : String :=
  "CREATE TABLE " ++ tableName id ++ "(time INTEGER, val1 REAL)"

/-- A column: its name and the words behind it, all in capital letters. -/
structure Column where
  name : List Char
  words : List (List Char)

def words (s : List Char) : List (List Char) :=
  ((s.map fun c => if Text.isBlank c then ' ' else c).splitOn ' ').filter (!·.isEmpty)

def parts (depth : Nat) (part : List Char) : List Char → List (List Char)
  | [] => [part.reverse]
  | c :: rest =>
      if c = '(' then parts (depth + 1) (c :: part) rest
      else if c = ')' then
        match depth with
        | 0 => [part.reverse]
        | depth + 1 => parts depth (c :: part) rest
      else if c = ',' ∧ depth = 0 then part.reverse :: parts 0 [] rest
      else parts depth (c :: part) rest

def unquoted (name : List Char) : List Char :=
  if name.head?.any (['"', '\'', '[', '\x60'].contains ·) then (name.drop 1).dropLast else name

def columns (statement : String) : List Column :=
  let body := (statement.toList.dropWhile (· ≠ '(')).drop 1
  (parts 0 [] body).filterMap fun part =>
    match words (part.map Char.toUpper) with
    | name :: rest => some ⟨unquoted name, rest⟩
    | [] => none

def Column.isNumber (c : Column) : Bool :=
  match c.words with
  | kind :: rest => kind == "INTEGER".toList && rest.contains "PRIMARY".toList
  | [] => false

/-! ## Reading -/

structure Listed where
  name : String
  root : Nat
  columns : List Column

def listed? : List Cell → Option Listed
  | [.text "table", .text name, _, .integer root, .text statement] =>
      some ⟨String.ofList (name.toList.map Char.toLower), root.toInt.toNat, columns statement⟩
  | _ => none

def cellUnder (c : Column) (index : Nat) (number : Int) (cells : List Cell) : Cell :=
  if c.isNumber then .integer (Int64.ofInt number) else (cells[index]?).getD .null

/-- The rows of a table, cut down to the columns with the given names, if there are such columns. -/
def select? (pages : Pages) (table : Listed) (names : List String) : Option (List (List Cell)) := do
  let chosen ← names.mapM fun name => do
    let index ← table.columns.findIdx? (·.name == name.toList)
    some (← table.columns[index]?, index)
  let rows ← pages.rows? table.root
  some (rows.map fun (number, cells) =>
    chosen.map fun (column, index) => cellUnder column index number cells)

def channel? : List Cell → Option Channel
  | [.integer id, name, dataType, size, active, host] =>
      some ⟨id, name, dataType, size, active, host⟩
  | _ => none

def reading? : List Cell → Option Reading
  | [time, value] => some ⟨time, value⟩
  | _ => none

def tableId? (name : String) : Option Tick :=
  let ds := name.toList.drop 6
  (Tick.ofInt? (Decimal.natural ds)).filter fun id => tableName id == name

def pages? (bytes : Bytes) : Option Pages :=
  let stated := natural ((bytes.drop 16).take 2)
  let size := if stated = 1 then 65536 else stated
  if bytes.take 16 = magic ∧ 512 ≤ size ∧ size ≤ bytes.length then
    some ⟨size, natural ((bytes.drop 20).take 1), (Draft.pieces size bytes).toArray⟩
  else none

end Image

namespace Database

open Image

def ofPages (pages : Pages) : Database :=
  let tables := ((pages.rows? 1).getD []).filterMap fun (_, cells) => listed? cells
  let channels := (tables.find? (·.name == "channels")).bind fun table =>
    select? pages table ["CHAN_ID", "NAME", "TYPE", "SIZE", "ACTIVE", "HOST"]
  let readings := tables.filterMap fun table => do
    let id ← tableId? table.name
    some (id, (← select? pages table ["TIME", "VAL1"]).filterMap reading?)
  { channels := channels.map (·.filterMap channel?), tables := readings }

/-- The database in a file. What is no database holds nothing. -/
def ofBytes (bytes : Bytes) : Database :=
  match pages? bytes with
  | some pages => ofPages pages
  | none => empty

def head (pages tables : Nat) : Bytes :=
  magic ++ bigEndian 2 Draft.pageSize ++ [1, 1, 0, 64, 32, 32] ++ bigEndian 4 1 ++ bigEndian 4 pages ++
    List.replicate 8 0 ++ bigEndian 4 tables ++ bigEndian 4 4 ++ List.replicate 8 0 ++
    bigEndian 4 1 ++ List.replicate 32 0 ++ bigEndian 4 1 ++ bigEndian 4 3045000

def channelRow (c : Channel) : Image.Entry :=
  (c.id.toInt, row [.null, c.name, c.dataType, c.size, c.active, c.host])

def readingRows (rows : List Reading) : List Image.Entry :=
  rows.zipIdx.map fun (r, i) => (i + 1, row [r.time, r.value])

def tableRows (db : Database) : List (String × String × List Image.Entry) :=
  (db.channels.map fun rows => ("channels", channelsStatement, rows.map channelRow)).toList ++
    db.tables.map fun (id, rows) => (tableName id, readingsStatement id, readingRows rows)

def toBytes (db : Database) : Bytes :=
  let tables := db.tableRows
  let list : List Image.Entry := tables.zipIdx.map fun ((name, statement, _), i) =>
    (i + 1, row [.text "table", .text name, .text name, .integer (Int64.ofNat (i + 2)),
      .text statement])
  let write : StateM Draft Unit := do
    tables.zipIdx.forM fun ((_, _, rows), i) => Draft.tree [] (i + 2) rows
    Draft.tree (List.replicate headSize 0) 1 list
  let ((), draft) := write.run ⟨tables.length + 2, []⟩
  let count := draft.next - 1
  let pages := (List.range count).map fun i =>
    (draft.pages.lookup (i + 1)).getD (List.replicate Draft.pageSize 0)
  head count tables.length ++ pages.flatten.drop headSize

end Database

end SpanQuery
