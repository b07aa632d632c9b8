import SpanQuery.Archive
import SpanQuery.Cache
import SpanQuery.Command.Arguments
import SpanQuery.Command.Failure
import SpanQuery.Command.Listing
import SpanQuery.Expr.Json
import SpanQuery.Files.Access
import SpanQuery.Settings.Search
import SpanQuery.Source.File

namespace SpanQuery

open Command (Failure)

abbrev Work := ExceptT Failure FileAccess

def Work.of (failure : ε → Failure) (result : Except ε α) : Work α :=
  ExceptT.mk (pure (result.mapError failure))

namespace Settings

/-- The settings in a file, or else in the first usable one of those in which they are looked for.
-/
def obtain (vars : Variables) : Option String → Work Settings
  | some path => do
      let look ← FileAccess.look path
      return (← Work.of .settings (loadOverridden (default vars) vars path look)).settings
  | none => do
      let files ← (searchPaths vars).mapM fun path =>
        return (path, ← (FileAccess.look path : Work Look))
      return (search (default vars) vars files).settings

end Settings

namespace SourceSettings

def connect (path : String) : Work Connection := do
  Work.of .source (Connection.ofLook path (← FileAccess.look path))

/-- Opens the source that is meant. Older samples need both a path and a cutover. -/
def openSource (s : SourceSettings) (zone : Calendar.Zone) : Work FileSource :=
  match s.kind with
  | .csv => do
      return .records (← Work.of .source (Memory.ofLook (← FileAccess.look s.path)))
  | .sqlite => do
      let main ← connect s.path
      match s.historyPath, s.historyCutover with
      | some path, some text =>
          let cutover ← Work.of (.cutover text) (Calendar.tick text zone)
          return .databases ⟨main, some (cutover, ← connect path)⟩
      | none, none => return .databases ⟨main, none⟩
      | _, _ => throw .halfHistory

/-- The archive over the source. Whether it fetches beforehand and whether it remembers is one
setting. -/
def archive (s : SourceSettings) : Archive (Cache × FileSource) :=
  ⟨Cache.sourceIf s.cache FileSource.source, s.cache⟩

end SourceSettings

namespace Command

def window (w : WindowText) (zone : Calendar.Zone) : Except TimeError (Tick × Tick) := do
  return (← Calendar.tick w.start zone, ← Calendar.tick w.stop zone)

structure Report where
  text : String
  failure : Option Failure

def untilError : List Item → List Interval × Option QueryError
  | [] => ([], none)
  | .error e :: _ => ([], some e)
  | .ok i :: rest =>
      let (intervals, e) := untilError rest
      (i :: intervals, e)

def reportTree (format : OutputFormat) (query : String) : Work Report := do
  let e ← Work.of .syntactic (Expr.ofText? query)
  let text := match format with
    | .json => String.ofList (e.toJson.pretty 0)
    | .table | .csv => e.text
  return ⟨text ++ "\n", none⟩

def reportRanges (s : Settings) (format : OutputFormat) (query : String) (w : WindowText)
    (raw : Bool) : Work Report := do
  let zone ← Work.of .time s.time.zone
  let (t0, t1) ← Work.of .time (window w zone)
  let e ← Work.of .query (Expr.ofQuery? query)
  let source ← s.source.openSource zone
  let archive := s.source.archive
  let find : StateM (Cache × FileSource) (List Item) := do
    let course ← if raw then archive.searchRanges e t0 t1 else archive.findRanges e t0 t1
    course.items archive.source
  let (items, _) := find.run (.empty, source)
  let (intervals, error) := untilError items
  let listing ← Work.of .time (Listing.ofIntervals zone intervals)
  return ⟨listing.text format, error.map (.evaluation query)⟩

def reportSamples (s : Settings) (format : OutputFormat) (name : String) (w : WindowText)
    (condition : Option String) : Work Report := do
  let zone ← Work.of .time s.time.zone
  let (t0, t1) ← Work.of .time (window w zone)
  let source ← s.source.openSource zone
  let (samples, _) := (s.source.archive.fetch ⟨name, t0, t1⟩ condition).run (.empty, source)
  let listing ← Work.of .time (Listing.ofSamples zone name (← Work.of .query samples))
  return ⟨listing.text format, none⟩

def reportSettings (s : Settings) (output : Option String) (effective : Bool) : Work Report := do
  let text := if effective then s.text else Settings.template
  match output with
  | none => return ⟨text, none⟩
  | some path =>
      Work.of (.saving path) (← FileAccess.save path (Text.encode text))
      return ⟨"Config written to " ++ Text.quoted path ++ "\n", none⟩

def settings (vars : Variables) (i : Invocation) : Work Settings := do
  let s ← Settings.obtain vars i.config
  return { s with source := { s.source with
    kind := i.kind.getD s.source.kind
    path := i.source.getD s.source.path } }

def report (vars : Variables) (i : Invocation) : Work Report := do
  let s ← settings vars i
  match i.command with
  | .parse query => reportTree i.format query
  | .ranges query w raw => reportRanges s i.format query w raw
  | .fetch name w condition => reportSamples s i.format name w condition
  | .config output effective => reportSettings s output effective

/-! ## Outcomes -/

structure Outcome where
  code : UInt32
  out : String
  err : String

def versionText : String := "archiveql 0.1.0\n"

def usage : String :=
  Listing.lines [
    "Usage: archiveql [OPTIONS] <COMMAND>",
    "",
    "Commands:",
    "  parse <QUERY>       Show how a query is read",
    "  ranges <QUERY>      Find the time ranges where a query holds",
    "  fetch <VARIABLE>    Fetch the samples of a variable",
    "  config              Write settings",
    "",
    "Options:",
    "  -c, --config <FILE>      Settings, instead of those in the standard places",
    "      --kind <KIND>        Kind of the archive: csv or sqlite",
    "  -s, --source <FILE>      File of the archive",
    "  -f, --format <FORMAT>    Output: table, json or csv",
    "      --from <TIME>        Start of the window (ranges, fetch)",
    "      --to <TIME>          End of the window (ranges, fetch)",
    "      --raw                Every range with its value (ranges)",
    "      --where <QUERY>      Only samples where a query holds (fetch)",
    "  -o, --output <FILE>      File to write settings to (config)",
    "      --effective          The settings in effect (config)",
    "  -h, --help               Show this text",
    "  -V, --version            Show the version"]

def Refusal.outcome : Refusal → Outcome
  | help => ⟨0, usage, ""⟩
  | version => ⟨0, versionText, ""⟩
  | misuse => ⟨2, "", usage⟩

def Report.outcome (r : Report) : Outcome :=
  match r.failure with
  | none => ⟨0, r.text, ""⟩
  | some f => ⟨1, r.text, f.text⟩

def run (vars : Variables) (arguments : List String) : FileAccess Outcome :=
  match ofArguments arguments with
  | .error refusal => pure refusal.outcome
  | .ok i => do
      match ← (report vars i).run with
      | .ok r => return r.outcome
      | .error f => return (Report.mk "" (some f)).outcome

end Command

end SpanQuery
