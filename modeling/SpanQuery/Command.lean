import SpanQuery.Settings

namespace SpanQuery

inductive OutputFormat where
  | table
  | json
  | csv
  deriving Repr, DecidableEq

namespace OutputFormat

def text : OutputFormat → String
  | table => "table"
  | json => "json"
  | csv => "csv"

def ofText? (name : String) : Option OutputFormat :=
  [table, json, csv].find? (·.text == name)

theorem ofText?_text (format : OutputFormat) : ofText? format.text = some format := by
  cases format <;> rfl

end OutputFormat

structure WindowText where
  start : String
  stop : String
  deriving Repr, DecidableEq

inductive Command where
  | parse (query : String)
  | ranges (query : String) (window : WindowText) (raw : Bool)
  | fetch (name : String) (window : WindowText) (condition : Option String)
  | config (output : Option String) (effective : Bool)
  deriving Repr, DecidableEq

structure Invocation where
  config : Option String
  kind : Option SourceKind
  source : Option String
  format : OutputFormat
  command : Command
  deriving Repr, DecidableEq

end SpanQuery
