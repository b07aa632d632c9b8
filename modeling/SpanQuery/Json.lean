import SpanQuery.Decimal.Layout

namespace SpanQuery

inductive Json where
  | null
  | bool (b : Bool)
  | number (lexeme : List Char)
  | string (s : String)
  | array (items : List Json)
  | object (fields : List (String × Json))

namespace Json

/-- A double; what is not finite becomes `null`. -/
def ofFloat (x : Float) : Json :=
  if x.isFinite then .number (Layout.json.chars x) else .null

def ofInt (n : Int) : Json :=
  .number (toString n).toList

def hexEscape (n : Nat) : List Char :=
  let ds := Nat.toDigits 16 n
  '\\' :: 'u' :: List.replicate (4 - ds.length) '0' ++ ds

/-- Quotes, backslashes and control characters are escaped, nothing else is. -/
def escapeChar (c : Char) : List Char :=
  match c with
  | '"' => ['\\', '"']
  | '\\' => ['\\', '\\']
  | '\n' => ['\\', 'n']
  | '\r' => ['\\', 'r']
  | '\t' => ['\\', 't']
  | '\x08' => ['\\', 'b']
  | '\x0c' => ['\\', 'f']
  | c => if c.toNat < 0x20 then hexEscape c.toNat else [c]

def quoted (s : String) : List Char :=
  '"' :: s.toList.flatMap escapeChar ++ ['"']

mutual

def compact : Json → List Char
  | .null => "null".toList
  | .bool b => if b then "true".toList else "false".toList
  | .number lexeme => lexeme
  | .string s => quoted s
  | .array items => '[' :: compactItems items ++ [']']
  | .object fields => '\x7b' :: compactFields fields ++ ['\x7d']

def compactItems : List Json → List Char
  | [] => []
  | [j] => j.compact
  | j :: js => j.compact ++ ',' :: compactItems js

def compactFields : List (String × Json) → List Char
  | [] => []
  | [(key, j)] => quoted key ++ ':' :: j.compact
  | (key, j) :: fields => quoted key ++ ':' :: j.compact ++ ',' :: compactFields fields

end

def newLine (level : Nat) : List Char :=
  '\n' :: List.replicate (2 * level) ' '

mutual

def pretty (level : Nat) : Json → List Char
  | .array [] => ['[', ']']
  | .array items => '[' :: prettyItems (level + 1) items ++ newLine level ++ [']']
  | .object [] => ['\x7b', '\x7d']
  | .object fields => '\x7b' :: prettyFields (level + 1) fields ++ newLine level ++ ['\x7d']
  | .null => compact .null
  | .bool b => compact (.bool b)
  | .number lexeme => compact (.number lexeme)
  | .string s => compact (.string s)

def prettyItems (level : Nat) : List Json → List Char
  | [] => []
  | [j] => newLine level ++ j.pretty level
  | j :: js => newLine level ++ j.pretty level ++ ',' :: prettyItems level js

def prettyFields (level : Nat) : List (String × Json) → List Char
  | [] => []
  | [(key, j)] => newLine level ++ quoted key ++ ':' :: ' ' :: j.pretty level
  | (key, j) :: fields =>
      newLine level ++ quoted key ++ ':' :: ' ' :: j.pretty level ++ ',' ::
        prettyFields level fields

end

def field? (key : String) : Json → Option Json
  | .object fields => fields.lookup key
  | _ => none

end Json

end SpanQuery
