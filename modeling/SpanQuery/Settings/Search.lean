import SpanQuery.Calendar.Time
import SpanQuery.Settings.Document

namespace SpanQuery

structure Loaded where
  settings : Settings
  origin : Option String
  problems : List SettingsError
  deriving Repr

def TimeSettings.zone (s : TimeSettings) : Except TimeError Calendar.Zone :=
  if s.gmt then .ok .universal else Calendar.zone s.timezone

namespace Settings

def load (other : Settings) (path : String) (look : Look) : Except SettingsError Settings := do
  let text ← look.text.mapError (.unreadable path)
  match ofChars? other text with
  | some settings => .ok settings
  | none => .error (.malformed path)

def kindOverride? (vars : Variables) : Option (Except String SourceKind) :=
  (vars.get? kindVariable).map SourceKind.ofAnyCase

def override (vars : Variables) (s : Settings) : Settings :=
  let setting (name : String) (other : String) := (vars.get? name).getD other
  { source := { s.source with
      kind := match kindOverride? vars with
        | some (.ok kind) => kind
        | _ => s.source.kind
      path := setting "ARCHIVEQL_SOURCE_PATH" s.source.path }
    time := { s.time with timezone := setting "ARCHIVEQL_TIMEZONE" s.time.timezone }
    logging :=
      { level := setting "ARCHIVEQL_LOG_LEVEL" s.logging.level
        format := setting "ARCHIVEQL_LOG_FORMAT" s.logging.format } }

def ignoredOverrides (vars : Variables) : List SettingsError :=
  match kindOverride? vars with
  | some (.error name) => [.unknownKind name]
  | _ => []

/-- Overrides what was loaded and reports the overrides that mean nothing. -/
def withOverrides (vars : Variables) (l : Loaded) : Loaded :=
  { l with
    settings := l.settings.override vars
    problems := l.problems ++ ignoredOverrides vars }

def firstUsable (other : Settings) : List (String × Look) → Loaded
  | [] => ⟨other, none, []⟩
  | (path, look) :: rest =>
      if look.isPresent then
        match load other path look with
        | .ok settings => ⟨settings, some path, []⟩
        | .error e =>
            let found := firstUsable other rest
            { found with problems := e :: found.problems }
      else firstUsable other rest

def search (other : Settings) (vars : Variables) (files : List (String × Look)) : Loaded :=
  withOverrides vars (firstUsable other files)

/-- Settings from one file that has to be usable, overridden by variables. -/
def loadOverridden (other : Settings) (vars : Variables) (path : String) (look : Look) :
    Except SettingsError Loaded := do
  .ok (withOverrides vars ⟨← load other path look, some path, []⟩)

def searchPaths (vars : Variables) : List String :=
  let user := (directory? vars "XDG_CONFIG_HOME" ".config").map fun directory =>
    Path.join (Path.join directory "archiveql") "config.toml"
  user.toList ++ ["/etc/archiveql/config.toml", "./config.toml"]

end Settings

end SpanQuery
