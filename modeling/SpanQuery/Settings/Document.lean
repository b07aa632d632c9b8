import SpanQuery.Settings
import SpanQuery.Toml.Reader
import SpanQuery.Toml.Writer

namespace SpanQuery

namespace Toml

/-- A value as a group of settings with the given names: the fields of a table, or the items of an
array in the order of the names. A time counts as a table without any of them. -/
def group? (names : List String) : Toml → Option Fields
  | .table _ fields => some fields
  | .time _ => some []
  | .array items => some (names.zip items)
  | .tables rows => some (names.zip (rows.map (.table .stated)))
  | _ => none

def text? : Toml → Option String
  | .string s => some s
  | _ => none

def bool? : Toml → Option Bool
  | .bool b => some b
  | _ => none

def isEmpty : Toml → Bool
  | .array [] | .table _ [] => true
  | _ => false

/-- A kind of archive: its name, or a table with just that name and nothing under it. -/
def kind? : Toml → Option SourceKind
  | .string s => SourceKind.ofText? s
  | .table _ [(name, v)] => if v.isEmpty then SourceKind.ofText? name else none
  | _ => none

def fieldOr (fields : Fields) (name : String) (read : Toml → Option α) (other : α) : Option α :=
  match fields.lookup name with
  | none => some other
  | some v => read v

end Toml

namespace Settings

open Toml (fieldOr)

def source? (other : SourceSettings) (t : Toml) : Option SourceSettings := do
  let fields ← t.group? ["kind", "path", "cache", "history_path", "history_cutover"]
  let kind ← fieldOr fields "kind" Toml.kind? other.kind
  let path ← fieldOr fields "path" Toml.text? other.path
  let cache ← fieldOr fields "cache" Toml.bool? other.cache
  let historyPath ← fieldOr fields "history_path" (Toml.text? · |>.map some) other.historyPath
  let historyCutover ←
    fieldOr fields "history_cutover" (Toml.text? · |>.map some) other.historyCutover
  some { kind, path, cache, historyPath, historyCutover }

def time? (other : TimeSettings) (t : Toml) : Option TimeSettings := do
  let fields ← t.group? ["timezone", "gmt"]
  let timezone ← fieldOr fields "timezone" Toml.text? other.timezone
  let gmt ← fieldOr fields "gmt" Toml.bool? other.gmt
  some { timezone, gmt }

def logging? (other : LoggingSettings) (t : Toml) : Option LoggingSettings := do
  let fields ← t.group? ["level", "format"]
  let level ← fieldOr fields "level" Toml.text? other.level
  let format ← fieldOr fields "format" Toml.text? other.format
  some { level, format }

def ofFields? (other : Settings) (fields : Toml.Fields) : Option Settings := do
  let source ← fieldOr fields "source" (source? other.source) other.source
  let time ← fieldOr fields "time" (time? other.time) other.time
  let logging ← fieldOr fields "logging" (logging? other.logging) other.logging
  some { source, time, logging }

def ofChars? (other : Settings) (text : List Char) : Option Settings :=
  Toml.ofChars? text >>= ofFields? other

def textLine (name value : String) : List Char :=
  Toml.entryLine name (Toml.stringChars value.toList)

def chars (s : Settings) : List Char :=
  let optional (name : String) (value : Option String) := (value.map (textLine name)).toList
  let source := Toml.sectionChars "source" (
    [textLine "kind" s.source.kind.text, textLine "path" s.source.path,
      Toml.entryLine "cache" (Toml.boolChars s.source.cache)] ++
    optional "history_path" s.source.historyPath ++
    optional "history_cutover" s.source.historyCutover)
  let time := Toml.sectionChars "time" [textLine "timezone" s.time.timezone,
    Toml.entryLine "gmt" (Toml.boolChars s.time.gmt)]
  let logging := Toml.sectionChars "logging" [textLine "level" s.logging.level,
    textLine "format" s.logging.format]
  source ++ '\n' :: time ++ '\n' :: logging

def text (s : Settings) : String :=
  String.ofList s.chars

def templateLines : List String :=
  ["# archiveql Configuration",
   "#",
   "# Environment variables override these settings:",
   "# - ARCHIVEQL_SOURCE_KIND",
   "# - ARCHIVEQL_SOURCE_PATH",
   "# - ARCHIVEQL_TIMEZONE",
   "# - ARCHIVEQL_LOG_LEVEL",
   "# - ARCHIVEQL_LOG_FORMAT",
   "",
   "[source]",
   "# Archive kind: csv (name,timestamp,value file) or sqlite (archive database)",
   "kind = \"csv\"",
   "",
   "# Path to the CSV file or SQLite database",
   "path = \"~/.local/share/archiveql/samples.csv\"",
   "",
   "# Remember the last fetched window per variable",
   "cache = true",
   "",
   "# SQLite only: older archive database, read for windows that start before",
   "# the cutover (a time string or archive ticks)",
   "# history_path = \"/data/archive-history.db\"",
   "# history_cutover = \"2018-01-01 00:00\"",
   "",
   "[time]",
   "# Time zone for reading and printing time strings",
   "timezone = \"America/New_York\"",
   "",
   "# Use UTC instead of the time zone above",
   "gmt = false",
   "",
   "[logging]",
   "# Log level: trace, debug, info, warn, error",
   "level = \"info\"",
   "",
   "# Log format: pretty (for development) or json (for production)",
   "format = \"pretty\""]

def template : String :=
  String.join (templateLines.map (· ++ "\n"))

end Settings

end SpanQuery
