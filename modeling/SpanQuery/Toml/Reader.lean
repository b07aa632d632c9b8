import SpanQuery.Calendar.Date
import SpanQuery.Decimal.Reader
import SpanQuery.Json.Reader
import SpanQuery.Toml

namespace SpanQuery.Toml

abbrev Reader (α : Type) := List Char → Option (α × List Char)

/-! ## Blanks, comments and line ends -/

def isBlank (c : Char) : Bool :=
  c == ' ' || c == '\t'

def skipBlanks (s : List Char) : List Char :=
  s.dropWhile isBlank

def isText (c : Char) : Bool :=
  c == '\t' || (0x20 ≤ c.toNat && c.toNat != 0x7F)

def skipComment : List Char → List Char
  | '#' :: rest => rest.dropWhile isText
  | s => s

def newLine? : List Char → Option (List Char)
  | '\n' :: rest => some rest
  | '\r' :: '\n' :: rest => some rest
  | _ => none

def lineEnd? (s : List Char) : Option (List Char) :=
  match skipComment (skipBlanks s) with
  | [] => some []
  | s => newLine? s

def skipFiller : List Char → List Char
  | ' ' :: rest | '\t' :: rest | '\n' :: rest | '\r' :: '\n' :: rest => skipFiller rest
  | '#' :: rest => skipFiller (rest.dropWhile isText)
  | s => s
termination_by s => s.length
decreasing_by
  all_goals simp only [List.length_cons]
  all_goals first
    | omega
    | exact Nat.lt_succ_of_le (List.dropWhile_suffix isText).length_le

def skipLines : List Char → List Char
  | ' ' :: rest | '\t' :: rest | '\n' :: rest | '\r' :: '\n' :: rest => skipLines rest
  | s => s

/-! ## Strings -/

def scalar? (ds : List Char) : Option Char := do
  let n ← ds.foldlM (fun n d => (Json.hexDigit? d).map (16 * n + ·)) 0
  if n < 0xD800 ∨ (0xE000 ≤ n ∧ n < 0x110000) then some (Char.ofNat n) else none

def escape? : Reader Char
  | 'b' :: rest => some ('\x08', rest)
  | 't' :: rest => some ('\t', rest)
  | 'n' :: rest => some ('\n', rest)
  | 'f' :: rest => some ('\x0c', rest)
  | 'r' :: rest => some ('\r', rest)
  | '"' :: rest => some ('"', rest)
  | '\\' :: rest => some ('\\', rest)
  | 'u' :: rest => do
      if rest.length < 4 then none else some (← scalar? (rest.take 4), rest.drop 4)
  | 'U' :: rest => do
      if rest.length < 8 then none else some (← scalar? (rest.take 8), rest.drop 8)
  | _ => none

/-- The text behind the blanks and line ends that a backslash at the end of a line swallows. -/
def joinedLine? (s : List Char) : Option (List Char) :=
  (newLine? (skipBlanks s)).map skipLines

structure StringForm where
  quote : Char
  hasEscapes : Bool
  hasLines : Bool

def stringBody (form : StringForm) (s : List Char) : Option (List Char × List Char) :=
  match s with
  | [] => none
  | c :: rest =>
      if c = form.quote then some ([], rest)
      else if c = '\\' ∧ form.hasEscapes then
        match escape? rest with
        | none => none
        | some (e, rest') =>
            if rest'.length ≤ rest.length then do
              let (body, rest) ← stringBody form rest'
              some (e :: body, rest)
            else none
      else if isText c then do
        let (body, rest) ← stringBody form rest
        some (c :: body, rest)
      else none
termination_by s.length

/-- The rest of a string of several lines after its three opening quotes. Of the quotes before the
three closing ones, two at most belong to the string; every line end is read as a line feed. -/
def linesBody (form : StringForm) (s : List Char) : Option (List Char × List Char) :=
  match s with
  | [] => none
  | c :: rest =>
      if c = form.quote then
        let count := (s.takeWhile (· = form.quote)).length
        if 3 ≤ count then
          let inside := min (count - 3) 2
          some (List.replicate inside c, s.drop (inside + 3))
        else do
          let (body, rest) ← linesBody form rest
          some (c :: body, rest)
      else if c = '\\' ∧ form.hasEscapes then
        match joinedLine? rest with
        | some rest' =>
            if rest'.length ≤ rest.length then linesBody form rest' else none
        | none =>
            match escape? rest with
            | none => none
            | some (e, rest') =>
                if rest'.length ≤ rest.length then do
                  let (body, rest) ← linesBody form rest'
                  some (e :: body, rest)
                else none
      else
        match newLine? s with
        | some rest' =>
            if rest'.length ≤ rest.length then do
              let (body, rest) ← linesBody form rest'
              some ('\n' :: body, rest)
            else none
        | none =>
            if isText c then do
              let (body, rest) ← linesBody form rest
              some (c :: body, rest)
            else none
termination_by s.length

/-- A string in some form, its opening quotes included. A line end just behind three quotes does not
count. -/
def stringOf (form : StringForm) (s : List Char) : Option (String × List Char) := do
  let (body, rest) ←
    if form.hasLines then
      let s := s.drop 3
      linesBody form ((newLine? s).getD s)
    else stringBody form (s.drop 1)
  some (String.ofList body, rest)

def string? (s : List Char) : Option (String × List Char) :=
  match s with
  | '"' :: '"' :: '"' :: _ => stringOf ⟨'"', true, true⟩ s
  | '"' :: _ => stringOf ⟨'"', true, false⟩ s
  | '\'' :: '\'' :: '\'' :: _ => stringOf ⟨'\'', false, true⟩ s
  | '\'' :: _ => stringOf ⟨'\'', false, false⟩ s
  | _ => none

/-! ## Keys -/

def isBare (c : Char) : Bool :=
  c.isAlphanum || c == '_' || c == '-'

def name? (s : List Char) : Option (String × List Char) :=
  match s with
  | '"' :: _ => stringOf ⟨'"', true, false⟩ s
  | '\'' :: _ => stringOf ⟨'\'', false, false⟩ s
  | _ =>
      match s.span isBare with
      | ([], _) => none
      | (name, rest) => some (String.ofList name, rest)

/-- The bound on the depth of values and the number of names in a key. -/
def maxDepth : Nat := 80

def names? (s : List Char) : Option (List String × List Char) :=
  match name? (skipBlanks s) with
  | none => none
  | some (name, rest) =>
      match skipBlanks rest with
      | '.' :: rest =>
          if rest.length < s.length then do
            let (names, rest) ← names? rest
            some (name :: names, rest)
          else none
      | rest => some ([name], rest)
termination_by s.length

def key? (s : List Char) : Option (List String × List Char) := do
  let (names, rest) ← names? s
  if names.length < maxDepth then some (names, rest) else none

/-! ## Numbers and times -/

def digits? (isDigit : Char → Bool) : List Char → Option (List Char × List Char)
  | d :: '_' :: rest =>
      if isDigit d then do
        let (ds, rest) ← digits? isDigit rest
        some (d :: ds, rest)
      else none
  | d :: rest =>
      if isDigit d then
        match rest with
        | [] => some ([d], [])
        | e :: _ =>
            if isDigit e then do
              let (ds, rest) ← digits? isDigit rest
              some (d :: ds, rest)
            else some ([d], rest)
      else none
  | [] => none

/-- A whole number without a sign; only zero starts with a zero. -/
def whole? : Reader (List Char)
  | '0' :: rest => some (['0'], rest)
  | s => digits? Char.isDigit s

def fraction? : Reader (List Char)
  | '.' :: rest => (digits? Char.isDigit rest).map fun (ds, rest) => ('.' :: ds, rest)
  | rest => some ([], rest)

def exponent? : Reader (List Char)
  | mark :: rest =>
      if mark = 'e' ∨ mark = 'E' then
        let (sign, rest) := match rest with
          | '+' :: rest => (['+'], rest)
          | '-' :: rest => (['-'], rest)
          | rest => ([], rest)
        (digits? Char.isDigit rest).map fun (ds, rest) => (mark :: sign ++ ds, rest)
      else some ([], mark :: rest)
  | [] => some ([], [])

def word? (n : Int) : Option Toml :=
  (Tick.ofInt? n).map fun _ => .integer n

def radixInteger? (radix : Nat) (isDigit : Char → Bool) (s : List Char) :
    Option (Toml × List Char) := do
  let (ds, rest) ← digits? isDigit s
  let n ← ds.foldlM (fun n d => (Json.hexDigit? d).map (radix * n + ·)) 0
  some (← word? n, rest)

/-- An integer or a number with a fraction or an exponent, in decimal digits. One that is too large
is refused, unless it is negative and not whole. -/
def decimal? (s : List Char) : Option (Toml × List Char) := do
  let (sign, s) := match s with
    | '-' :: rest => (['-'], rest)
    | '+' :: rest => (['+'], rest)
    | rest => ([], rest)
  match s with
  | 'i' :: 'n' :: 'f' :: rest => some (.float (sign ++ ['i', 'n', 'f']), rest)
  | 'n' :: 'a' :: 'n' :: rest => some (.float (sign ++ ['n', 'a', 'n']), rest)
  | s =>
      let (whole, rest) ← whole? s
      let (fraction, rest) ← fraction? rest
      let (exponent, rest) ← exponent? rest
      if fraction.isEmpty ∧ exponent.isEmpty then
        let n : Int := Decimal.natural whole
        some (← word? (if sign = ['-'] then -n else n), rest)
      else
        let lexeme := sign ++ whole ++ fraction ++ exponent
        let x ← Decimal.read? lexeme
        if x == 1.0 / 0.0 then none else some (.float lexeme, rest)

def number? (s : List Char) : Option (Toml × List Char) :=
  match s with
  | '0' :: 'x' :: rest => radixInteger? 16 (fun c => (Json.hexDigit? c).isSome) rest
  | '0' :: 'o' :: rest => radixInteger? 8 (fun c => '0' ≤ c && c ≤ '7') rest
  | '0' :: 'b' :: rest => radixInteger? 2 (fun c => c == '0' || c == '1') rest
  | s => decimal? s

def pair? (least greatest : Nat) : Reader (List Char)
  | a :: b :: rest =>
      if a.isDigit ∧ b.isDigit then
        let n := Decimal.natural [a, b]
        if least ≤ n ∧ n ≤ greatest then some ([a, b], rest) else none
      else none
  | _ => none

def expect? (c : Char) : List Char → Option (List Char)
  | d :: rest => if d = c then some rest else none
  | [] => none

def secondPart : List Char → List Char × List Char
  | '.' :: rest =>
      match rest.span Char.isDigit with
      | ([], _) => ([], '.' :: rest)
      | (ds, rest) => ('.' :: ds, rest)
  | rest => ([], rest)

def clock? (s : List Char) : Option (List Char × List Char) := do
  let (hour, s) ← pair? 0 23 s
  let s ← expect? ':' s
  let (minute, s) ← pair? 0 59 s
  let s ← expect? ':' s
  let (second, s) ← pair? 0 60 s
  let (part, s) := secondPart s
  some (hour ++ ':' :: minute ++ ':' :: second ++ part, s)

def startsClock (s : List Char) : Bool :=
  match pair? 0 23 s with
  | some (_, ':' :: _) => true
  | _ => false

def offset? : Reader (List Char)
  | 'Z' :: rest => some (['Z'], rest)
  | 'z' :: rest => some (['z'], rest)
  | sign :: rest =>
      if sign = '+' ∨ sign = '-' then do
        let (hour, s) ← pair? 0 23 rest
        let s ← expect? ':' s
        let (minute, s) ← pair? 0 59 s
        some (sign :: hour ++ ':' :: minute, s)
      else some ([], sign :: rest)
  | [] => some ([], [])

def date? (s : List Char) : Option (List Char × List Char) := do
  let year := s.take 4
  let s ← expect? '-' (s.drop 4)
  let (month, s) ← pair? 1 12 s
  let s ← expect? '-' s
  let (day, s) ← pair? 1 31 s
  let date : Calendar.Date := ⟨Decimal.natural year, Decimal.natural month, Decimal.natural day⟩
  if date.IsValid then
    let text := year ++ '-' :: month ++ '-' :: day
    match s with
    | c :: rest =>
        if (c = 'T' ∨ c = 't' ∨ c = ' ') ∧ startsClock rest then do
          let (clock, rest) ← clock? rest
          let (offset, rest) ← offset? rest
          some (text ++ c :: clock ++ offset, rest)
        else some (text, s)
    | [] => some (text, s)
  else none

def startsDate (s : List Char) : Bool :=
  (s.take 4).length == 4 && (s.take 4).all Char.isDigit && (s.drop 4).head? == some '-'

/-! ## Values -/

def scalarValue? (s : List Char) : Option (Toml × List Char) :=
  match s with
  | 't' :: 'r' :: 'u' :: 'e' :: rest => some (.bool true, rest)
  | 'f' :: 'a' :: 'l' :: 's' :: 'e' :: rest => some (.bool false, rest)
  | c :: _ =>
      if c = '"' ∨ c = '\'' then (string? s).map fun (text, rest) => (.string text, rest)
      else if startsDate s then (date? s).map fun (text, rest) => (.time text, rest)
      else if startsClock s then (clock? s).map fun (text, rest) => (.time text, rest)
      else number? s
  | [] => none

def items? (value : Reader Toml) (s : List Char) : Option (List Toml × List Char) :=
  match skipFiller s with
  | ']' :: rest => some ([], rest)
  | s' =>
      match value s' with
      | none => none
      | some (item, rest) =>
          match skipFiller rest with
          | ']' :: rest => some ([item], rest)
          | ',' :: rest =>
              if rest.length < s.length then do
                let (items, rest) ← items? value rest
                some (item :: items, rest)
              else none
          | _ => none
termination_by s.length

def keyValue? (value : Reader Toml) (s : List Char) : Option (Entry × List Char) := do
  let (key, s) ← key? s
  let s ← expect? '=' s
  let (v, s) ← value (skipBlanks s)
  some ((key, v), s)

def keyValues? (value : Reader Toml) (s : List Char) : Option (List Entry × List Char) :=
  match keyValue? value s with
  | none => none
  | some (entry, rest) =>
      match skipBlanks rest with
      | '\x7d' :: rest => some ([entry], rest)
      | ',' :: rest =>
          if rest.length < s.length then do
            let (entries, rest) ← keyValues? value rest
            some (entry :: entries, rest)
          else none
      | _ => none
termination_by s.length

/-- A value in which arrays and inline tables stand in each other to less than the given depth. -/
def value? : Nat → Reader Toml
  | depth + 2, '[' :: rest => do
      let (items, rest) ← items? (value? (depth + 1)) rest
      some (.array items, rest)
  | depth + 2, '\x7b' :: rest => do
      match skipBlanks rest with
      | '\x7d' :: rest => some (.table .inline [], rest)
      | rest =>
          let (entries, rest) ← keyValues? (value? (depth + 1)) rest
          some (.table .inline (← assignAll? entries []), rest)
  | _, s => scalarValue? s

/-! ## Documents -/

inductive Line where
  | entry (e : Entry)
  | header (path : List String) (isRow : Bool)

def header? (isRow : Bool) (s : List Char) : Option (Line × List Char) := do
  let (path, s) ← key? s
  let s ← expect? ']' s
  let s ← if isRow then expect? ']' s else some s
  some (.header path isRow, s)

def line? (s : List Char) : Option (Line × List Char) :=
  match s with
  | '[' :: '[' :: rest => header? true rest
  | '[' :: rest => header? false rest
  | s => (keyValue? (value? maxDepth) s).map fun (e, rest) => (.entry e, rest)

def lines? (s : List Char) : Option (List Line) :=
  match skipBlanks s with
  | [] => some []
  | s' =>
      match lineEnd? s' with
      | some rest => if rest.length < s.length then lines? rest else none
      | none =>
          match line? s' with
          | none => none
          | some (line, rest) =>
              match lineEnd? rest with
              | none => none
              | some rest =>
                  if rest.length < s.length then (lines? rest).map (line :: ·) else none
termination_by s.length

def sections : List Line → List Entry × List Section
  | [] => ([], [])
  | .entry e :: lines =>
      let (top, rest) := sections lines
      (e :: top, rest)
  | .header path isRow :: lines =>
      let (entries, rest) := sections lines
      ([], ⟨path, isRow, entries⟩ :: rest)

/-- Reads a document. A byte order mark at its start does not count. -/
def ofChars? (s : List Char) : Option Fields := do
  let s := match s with
    | '\uFEFF' :: rest => rest
    | s => s
  let (top, rest) := sections (← lines? s)
  document? top rest

end SpanQuery.Toml
