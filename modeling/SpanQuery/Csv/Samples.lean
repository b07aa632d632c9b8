import SpanQuery.Csv.Record
import SpanQuery.Decimal.Reader
import SpanQuery.Decimal.Word
import SpanQuery.Memory
import SpanQuery.Text.Blank

/-!
# Samples in comma-separated records

The first record names the columns; those named `name`, `timestamp` and `value` are read, in
whatever order they stand, and others are left alone. If the names are not UTF-8 the first three
columns count. All records have as many fields as the first.
-/

namespace SpanQuery.Csv

open Text (Bytes)
open Decimal (NumberFault wordIn)

inductive Column where
  | name
  | timestamp
  | value
  deriving Repr, DecidableEq

def Column.text : Column → String
  | name => "name"
  | timestamp => "timestamp"
  | value => "value"

def Column.all : List Column := [.name, .timestamp, .value]

inductive RowFault where
  | number (field : Nat) (fault : NumberFault)
  | missing (column : Column)
  | duplicate (column : Column)
  | tooShort (fields : Nat)
  deriving Repr, DecidableEq

def RowFault.message : RowFault → String
  | number field fault => "field " ++ toString field ++ ": " ++ fault.message
  | missing column => "missing field `" ++ column.text ++ "`"
  | duplicate column => "duplicate field `" ++ column.text ++ "`"
  | tooShort fields =>
      "invalid length " ++ toString fields ++ ", expected struct SampleRow with 3 elements"

inductive RecordFault where
  | fieldCount (found expected : Nat)
  | notText (field index : Nat)
  | row (fault : RowFault)
  deriving Repr, DecidableEq

structure Fault where
  position : Position
  fault : RecordFault
  deriving Repr, DecidableEq

def Fault.message (f : Fault) : String :=
  let record := "record " ++ toString f.position.record
  let place := record ++ " (line: " ++ toString f.position.line ++ ", byte: " ++
    toString f.position.byte ++ "): "
  match f.fault with
  | .fieldCount found expected =>
      "CSV error: " ++ place ++ "found record with " ++ toString found ++
        " fields, but the previous record has " ++ toString expected ++ " fields"
  | .notText field index =>
      "CSV parse error: " ++ record ++ " (line " ++ toString f.position.line ++ ", field: " ++
        toString field ++ ", byte: " ++ toString f.position.byte ++
        "): invalid utf-8: invalid UTF-8 in field " ++ toString field ++ " near byte index " ++
        toString index
  | .row fault => "CSV deserialize error: " ++ place ++ fault.message

/-! ## Numbers -/

def word : List Char → Except NumberFault Tick
  | '0' :: 'x' :: ds => wordIn 16 ds
  | ds => wordIn 10 ds

def float (s : List Char) : Except NumberFault Float :=
  if s.isEmpty then .error .emptyFloat
  else
    match Decimal.read? s with
    | some x => .ok x
    | none => .error .invalidFloat

/-! ## Rows -/

structure Partial where
  name : Option String := none
  timestamp : Option Tick := none
  value : Option Float := none

def Partial.has (p : Partial) : Column → Bool
  | .name => p.name.isSome
  | .timestamp => p.timestamp.isSome
  | .value => p.value.isSome

def Partial.read (p : Partial) (column : Column) (index : Nat) (text : List Char) :
    Except RowFault Partial :=
  match column with
  | .name => .ok { p with name := some (String.ofList text) }
  | .timestamp => do
      let t ← (word text).mapError (.number index)
      .ok { p with timestamp := some t }
  | .value => do
      let x ← (float text).mapError (.number index)
      .ok { p with value := some x }

def readColumns (p : Partial) (index : Nat) :
    List (Option Column) → List (List Char) → Except RowFault Partial
  | none :: columns, _ :: fields => readColumns p (index + 1) columns fields
  | some column :: columns, text :: fields =>
      if p.has column then .error (.duplicate column)
      else do readColumns (← p.read column index text) (index + 1) columns fields
  | _, _ => .ok p

abbrev Row := String × Sample

def Partial.row? (p : Partial) (fault : Column → RowFault) : Except RowFault Row :=
  match p.name, p.timestamp, p.value with
  | none, _, _ => .error (fault .name)
  | _, none, _ => .error (fault .timestamp)
  | _, _, none => .error (fault .value)
  | some name, some timestamp, some value => .ok (name, ⟨timestamp, value⟩)

/-- Reads a row; without names of columns the first three fields count. -/
def readRow (columns : Option (List (Option Column))) (fields : List (List Char)) :
    Except RowFault Row :=
  match columns with
  | some columns => do (← readColumns {} 0 columns fields).row? .missing
  | none => do
      (← readColumns {} 0 (Column.all.map some) fields).row? fun _ => .tooShort fields.length

/-! ## Files -/

def isAsciiBlank (b : UInt8) : Bool :=
  b == 0x20 || b == 0x09 || b == 0x0A || b == 0x0C || b == 0x0D

def trimBytes (field : Bytes) : Bytes :=
  ((field.dropWhile isAsciiBlank).reverse.dropWhile isAsciiBlank).reverse

def texts (index : Nat) : List Bytes → Except RecordFault (List (List Char))
  | [] => .ok []
  | field :: fields => do
      let text ← (Text.decode (trimBytes field)).mapError (.notText index)
      .ok (Text.trim text :: (← texts (index + 1) fields))

def columnsOf (fields : List Bytes) : Option (List (Option Column)) :=
  match texts 0 fields with
  | .ok names => some (names.map fun name => Column.all.find? (·.text.toList == name))
  | .error _ => none

def readRecord (header : Record) (r : Record) : Except Fault Row :=
  let read : Except RecordFault Row := do
    if r.fields.length ≠ header.fields.length then
      .error (.fieldCount r.fields.length header.fields.length)
    let fields ← texts 0 r.fields
    (readRow (columnsOf header.fields) fields).mapError .row
  read.mapError (Fault.mk r.position)

def rows (bytes : Bytes) : Except Fault (List Row) :=
  match records bytes with
  | [] => .ok []
  | header :: below => below.mapM (readRecord header)

def memory (bytes : Bytes) : Except Fault Memory :=
  (rows bytes).map fun rows => rows.foldl (fun m row => m.push row.1 row.2) Memory.empty

end SpanQuery.Csv
