import SpanQuery.Files
import SpanQuery.Keyed
import SpanQuery.Text.Quoted

namespace SpanQuery

abbrev Variables := Keyed String

inductive SourceKind where
  | csv
  | sqlite
  deriving Repr, DecidableEq

namespace SourceKind

def text : SourceKind → String
  | csv => "csv"
  | sqlite => "sqlite"

def ofText? (name : String) : Option SourceKind :=
  [csv, sqlite].find? (·.text == name)

theorem ofText?_text (kind : SourceKind) : ofText? kind.text = some kind := by
  cases kind <;> rfl

def lowered (name : String) : String :=
  String.ofList (name.toList.map Char.toLower)

/-- The kind with that name in any letter case, or the name in lower case. -/
def ofAnyCase (name : String) : Except String SourceKind :=
  match ofText? (lowered name) with
  | some kind => .ok kind
  | none => .error (lowered name)

def unknownMessage (name : String) : String :=
  "unknown source kind '" ++ name ++ "'"

end SourceKind

structure SourceSettings where
  kind : SourceKind
  path : String
  cache : Bool
  historyPath : Option String
  historyCutover : Option String
  deriving Repr, DecidableEq

structure TimeSettings where
  timezone : String
  gmt : Bool
  deriving Repr, DecidableEq

structure LoggingSettings where
  level : String
  format : String
  deriving Repr, DecidableEq

structure Settings where
  source : SourceSettings
  time : TimeSettings
  logging : LoggingSettings
  deriving Repr, DecidableEq

inductive SettingsError where
  | unreadable (path : String) (fault : FileFault)
  | malformed (path : String)
  | unknownKind (name : String)
  deriving Repr, DecidableEq

def kindVariable : String := "ARCHIVEQL_SOURCE_KIND"

def SettingsError.message : SettingsError → String
  | unreadable path fault =>
      "Failed to read config file " ++ Text.quoted path ++ ": " ++ fault.message
  | malformed path => "Failed to parse config file " ++ Text.quoted path ++ ": no valid settings"
  | unknownKind name => "Ignoring " ++ kindVariable ++ ": " ++ SourceKind.unknownMessage name

namespace Settings

def directory? (vars : Variables) (name below : String) : Option String :=
  match (vars.get? name).filter Path.isAbsolute with
  | some path => some path
  | none => ((vars.get? "HOME").filter (· ≠ "")).map (Path.join · below)

def defaultPath (vars : Variables) : String :=
  match directory? vars "XDG_DATA_HOME" ".local/share" with
  | some directory => Path.join (Path.join directory "archiveql") "samples.csv"
  | none => "./samples.csv"

def default (vars : Variables) : Settings where
  source := ⟨.csv, defaultPath vars, true, none, none⟩
  time := ⟨"America/New_York", false⟩
  logging := ⟨"info", "pretty"⟩

end Settings

end SpanQuery
