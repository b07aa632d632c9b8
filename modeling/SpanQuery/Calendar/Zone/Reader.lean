import SpanQuery.Calendar.Zone.Rules
import SpanQuery.Decimal.Reader

/-!
# Histories of zones as text

A table of zones has three kinds of lines, each a list of words with one blank between them.

* `R name first last month day time saving` is a rule of the set with that name.
* `Z name` begins a zone. The lines up to the next one of another kind are its eras: the offset, the
  saving, and the end as a year, a month, a day and a time, of which the last ones may be missing. The
  saving is a time, a name of a set of rules, or `-` for none.
* `L name zone` is another name for a zone.

A time is hours, minutes and seconds with colons between them, with an `s` behind it for standard
time and a `u` for universal time. A day is a number, or the number of a weekday with `$` for the last
one in the month, or with `>n` or `<n` for the first one not before or the last one not after the day.
-/

namespace SpanQuery.Calendar

structure Table where
  rules : List (String × Rule)
  zones : List (String × List Era)
  aliases : List (String × String)

namespace Table

def seconds (s : List Char) : Int :=
  let (negative, body) := Decimal.splitSign s
  let parts := body.splitOn ':'
  let total := (parts.zip [3600, 60, 1]).foldl (fun n (part, unit) =>
    n + Decimal.natural part * unit) 0
  if negative then -total else total

def integer (s : List Char) : Int :=
  let (negative, body) := Decimal.splitSign s
  if negative then -Decimal.natural body else Decimal.natural body

def time (s : List Char) : Int × Clock :=
  match s.getLast? with
  | some 's' => (seconds s.dropLast, .standard)
  | some 'u' => (seconds s.dropLast, .universal)
  | _ => (seconds s, .wall)

def monthDay : List Char → MonthDay
  | [d, '$'] => .last (Decimal.natural [d])
  | d :: '>' :: n => .onOrAfter (Decimal.natural [d]) (Decimal.natural n)
  | d :: '<' :: n => .onOrBefore (Decimal.natural [d]) (Decimal.natural n)
  | n => .day (Decimal.natural n)

/-- A month, a day and a time; without them, the first moment of what is given. -/
def moment (words : List (List Char)) : Moment :=
  let word (i : Nat) (other : List Char) := (words[i]?).getD other
  let (seconds, clock) := time (word 2 ['0'])
  ⟨Decimal.natural (word 0 ['1']), monthDay (word 1 ['1']), seconds, clock⟩

def saving (s : List Char) : Saving :=
  match s with
  | ['-'] => .fixed 0
  | c :: _ => if c.isDigit ∨ c = '-' then .fixed (seconds s) else .rules (String.ofList s)
  | [] => .fixed 0

def era? : List (List Char) → Option Era
  | [offset, s] => some ⟨seconds offset, saving s, none⟩
  | offset :: s :: year :: words =>
      some ⟨seconds offset, saving s, some (integer year, moment words)⟩
  | _ => none

/-- Puts what a line holds before what the lines below it hold. The eras whose zone has not been
reached yet stand apart. -/
def addLine (line : List Char) (t : List Era × Table) : List Era × Table :=
  let (eras, table) := t
  match line.splitOn ' ' with
  | [['R'], name, first, last, month, day, time, s] =>
      let rule : Rule := ⟨integer first, integer last, moment [month, day, time], seconds s⟩
      ([], { table with rules := (String.ofList name, rule) :: table.rules })
  | [['Z'], name] => ([], { table with zones := (String.ofList name, eras) :: table.zones })
  | [['L'], name, zone] =>
      ([], { table with aliases := (String.ofList name, String.ofList zone) :: table.aliases })
  | words =>
      match era? words with
      | some e => (e :: eras, table)
      | none => (eras, table)

def ofChars (text : List Char) : Table :=
  ((text.splitOn '\n').foldr addLine ([], ⟨[], [], []⟩)).2

def rulesOf (t : Table) (name : String) : List Rule :=
  (t.rules.filter fun (other, _) => other == name).map (·.2)

def zone? (t : Table) (name : String) : Option Zone :=
  let eras := t.zones.lookup ((t.aliases.lookup name).getD name)
  eras.bind (Zone.ofEras? name t.rulesOf)

end Table

end SpanQuery.Calendar
