import SpanQuery.Json
import SpanQuery.Tick
import SpanQuery.Decimal.Reader

/-!
# Reading JSON

Every reader takes the text from where it stands and returns the value with the text behind it.
Containers may stand in each other to a fixed depth. Numbers are read exactly into words where
they fit; as doubles they are a word times a power of ten.
-/

namespace SpanQuery.Json

def isBlank (c : Char) : Bool :=
  c == ' ' || c == '\t' || c == '\n' || c == '\r'

def skipBlanks (s : List Char) : List Char :=
  s.dropWhile isBlank

def hexDigit? (c : Char) : Option Nat :=
  if c.isDigit then some (c.toNat - '0'.toNat)
  else if 'a' ≤ c ∧ c ≤ 'f' then some (c.toNat - 'a'.toNat + 10)
  else if 'A' ≤ c ∧ c ≤ 'F' then some (c.toNat - 'A'.toNat + 10)
  else none

def unit? (a b c d : Char) : Option Nat := do
  some (((← hexDigit? a) * 16 + (← hexDigit? b)) * 256 + (← hexDigit? c) * 16 + (← hexDigit? d))

def escaped? : Char → Option Char
  | '"' => some '"'
  | '\\' => some '\\'
  | '/' => some '/'
  | 'b' => some '\x08'
  | 'f' => some '\x0c'
  | 'n' => some '\n'
  | 'r' => some '\r'
  | 't' => some '\t'
  | _ => none

def isHighSurrogate (u : Nat) : Bool := 0xD800 ≤ u && u < 0xDC00

def isLowSurrogate (u : Nat) : Bool := 0xDC00 ≤ u && u < 0xE000

/-- The rest of a string after its opening quote. A character outside the basic plane may be
written as two escaped units; one alone is refused. -/
def stringBody : List Char → Option (List Char × List Char)
  | '"' :: rest => some ([], rest)
  | '\\' :: 'u' :: a :: b :: c :: d :: rest => do
      let u ← unit? a b c d
      if isLowSurrogate u then none
      else if isHighSurrogate u then
        match rest with
        | '\\' :: 'u' :: e :: f :: g :: h :: rest => do
            let v ← unit? e f g h
            if isLowSurrogate v then
              let (body, rest) ← stringBody rest
              some (Char.ofNat (0x10000 + (u - 0xD800) * 1024 + (v - 0xDC00)) :: body, rest)
            else none
        | _ => none
      else
        let (body, rest) ← stringBody rest
        some (Char.ofNat u :: body, rest)
  | '\\' :: c :: rest => do
      let c ← escaped? c
      let (body, rest) ← stringBody rest
      some (c :: body, rest)
  | c :: rest =>
      if c == '\\' || c.toNat < 0x20 then none
      else do
        let (body, rest) ← stringBody rest
        some (c :: body, rest)
  | [] => none
termination_by s => s.length
decreasing_by all_goals (simp only [List.length_cons]; omega)

def fraction? : List Char → Option (List Char × List Char)
  | '.' :: rest =>
      match rest.span Char.isDigit with
      | ([], _) => none
      | (ds, rest) => some ('.' :: ds, rest)
  | rest => some ([], rest)

def exponentPart? : List Char → Option (List Char × List Char)
  | mark :: rest =>
      if mark == 'e' || mark == 'E' then
        let (sign, rest) := match rest with
          | '+' :: rest => (['+'], rest)
          | '-' :: rest => (['-'], rest)
          | rest => ([], rest)
        match rest.span Char.isDigit with
        | ([], _) => none
        | (ds, rest) => some (mark :: sign ++ ds, rest)
      else some ([], mark :: rest)
  | [] => some ([], [])

/-- A number without a sign at the start of a text. Only the number zero starts with a zero. -/
def unsignedPart? (s : List Char) : Option (List Char × List Char) :=
  let (whole, rest) := s.span Char.isDigit
  match whole with
  | [] => none
  | '0' :: _ :: _ => none
  | _ => do
      let (fraction, rest) ← fraction? rest
      let (exponent, rest) ← exponentPart? rest
      some (whole ++ fraction ++ exponent, rest)

def numberPart? : List Char → Option (List Char × List Char)
  | '-' :: s => do
      let (lexeme, rest) ← unsignedPart? s
      some ('-' :: lexeme, rest)
  | s => unsignedPart? s

abbrev Reader (α : Type) := List Char → Option (α × List Char)

/-- Items up to the closing bracket; every item takes at least one character. -/
def readItems (item : Reader Json) (s : List Char) : Option (List Json × List Char) :=
  match item s with
  | none => none
  | some (j, rest) =>
      match skipBlanks rest with
      | ']' :: rest => some ([j], rest)
      | ',' :: rest =>
          if rest.length < s.length then do
            let (js, rest) ← readItems item rest
            some (j :: js, rest)
          else none
      | _ => none
termination_by s.length

def readField (item : Reader Json) (s : List Char) : Option ((String × Json) × List Char) :=
  match skipBlanks s with
  | '"' :: rest => do
      let (key, rest) ← stringBody rest
      match skipBlanks rest with
      | ':' :: rest => do
          let (j, rest) ← item rest
          some ((String.ofList key, j), rest)
      | _ => none
  | _ => none

def readFields (item : Reader Json) (s : List Char) :
    Option (List (String × Json) × List Char) :=
  match readField item s with
  | none => none
  | some (field, rest) =>
      match skipBlanks rest with
      | '\x7d' :: rest => some ([field], rest)
      | ',' :: rest =>
          if rest.length < s.length then do
            let (fields, rest) ← readFields item rest
            some (field :: fields, rest)
          else none
      | _ => none
termination_by s.length

def readScalar (s : List Char) : Option (Json × List Char) :=
  match s with
  | 'n' :: 'u' :: 'l' :: 'l' :: rest => some (.null, rest)
  | 't' :: 'r' :: 'u' :: 'e' :: rest => some (.bool true, rest)
  | 'f' :: 'a' :: 'l' :: 's' :: 'e' :: rest => some (.bool false, rest)
  | '"' :: rest => do
      let (body, rest) ← stringBody rest
      some (.string (String.ofList body), rest)
  | s => do
      let (lexeme, rest) ← numberPart? s
      some (.number lexeme, rest)

def readValue : Nat → Reader Json
  | depth, s =>
      match depth, skipBlanks s with
      | 0, '[' :: _ | 0, '\x7b' :: _ => none
      | depth + 1, '[' :: rest =>
          match skipBlanks rest with
          | ']' :: rest => some (.array [], rest)
          | _ => do
              let (items, rest) ← readItems (readValue depth) rest
              some (.array items, rest)
      | depth + 1, '\x7b' :: rest =>
          match skipBlanks rest with
          | '\x7d' :: rest => some (.object [], rest)
          | _ => do
              let (fields, rest) ← readFields (readValue depth) rest
              some (.object fields, rest)
      | _, s => readScalar s

def maxDepth : Nat := 127

def ofChars? (s : List Char) : Option Json := do
  let (j, rest) ← readValue maxDepth s
  if (skipBlanks rest).isEmpty then some j else none

def ofText? (text : String) : Option Json :=
  ofChars? text.toList

/-! ## Numbers -/

/-- A number taken apart: its sign, the digits before and behind the point, and the exponent if it
is written. -/
structure Numeral where
  negative : Bool
  whole : List Char
  places : List Char
  exponent : Option Int

namespace Numeral

def ofLexeme (lexeme : List Char) : Numeral :=
  let (negative, s) := Decimal.splitSign lexeme
  let (whole, s) := s.span Char.isDigit
  let (places, s) := match s with
    | '.' :: s => s.span Char.isDigit
    | s => ([], s)
  { negative, whole, places, exponent := if s.isEmpty then none else Decimal.exponent? s }

/-- The digits appended to `m` as long as a 64-bit word holds the result, and those left over. -/
def intoWord (m : Nat) : List Char → Nat × List Char
  | [] => (m, [])
  | d :: ds =>
      let next := 10 * m + (d.toNat - '0'.toNat)
      if UInt64.size ≤ next then (m, d :: ds) else intoWord next ds

def maxPower : Nat := 308

def divideDown (x : Float) (e : Nat) : Float :=
  if e ≤ maxPower then x / Decimal.scaled 1 e
  else if x == 0.0 then x
  else divideDown (x / Decimal.scaled 1 maxPower) (e - maxPower)
termination_by e
decreasing_by
  simp only [maxPower] at *
  omega

def scale? (m : Nat) (e : Int) : Option Float :=
  let x := m.toUInt64.toFloat
  if e < 0 then some (divideDown x e.natAbs)
  else if m = 0 then some x
  else if maxPower < e then none
  else
    let y := x * Decimal.scaled 1 e
    if y.isFinite then some y else none

/-- The nearest double but for the digits that no word holds and for the rounding of the power. -/
def float? (n : Numeral) : Option Float := do
  let (m, dropped) := intoWord 0 n.whole
  let (m, rest) := intoWord m n.places
  let e : Int := dropped.length - (n.places.length - rest.length : Nat) + n.exponent.getD 0
  let x ← scale? m e
  some (if n.negative then -x else x)

/-- The word that a whole number denotes. A zero with a minus sign is no whole number. -/
def tick? (n : Numeral) : Option Tick :=
  if n.places.isEmpty && n.exponent.isNone then
    let m : Int := Decimal.natural n.whole
    if !n.negative then Tick.ofInt? m
    else if 0 < m then Tick.ofInt? (-m)
    else none
  else none

end Numeral

def float? : Json → Option Float
  | .number lexeme => (Numeral.ofLexeme lexeme).float?
  | _ => none

def tick? : Json → Option Tick
  | .number lexeme => (Numeral.ofLexeme lexeme).tick?
  | _ => none

end SpanQuery.Json
