import SpanQuery.Calendar.Stamp
import SpanQuery.Calendar.Zone
import SpanQuery.Calendar.Zone.Reader
import SpanQuery.Calendar.Zone.World
import SpanQuery.Decimal.Layout
import SpanQuery.Decimal.Word
import SpanQuery.Error

/-!
# Ticks as texts

A tick is written as the stamp that the clocks of a zone show and the part of a second behind a
plus sign. A text may also be a plain tick count.
-/

namespace SpanQuery.Calendar

def ticksPerSecond : Int := 268435456

def world : Table := Table.ofChars worldText.toList

def zone (name : String) : Except TimeError Zone :=
  match world.zone? name with
  | some z => .ok z
  | none => .error (.unknownZone name)

/-- The whole ticks in a fraction of a second, which is not negative and less than one. -/
def fractionTicks? (x : Float) : Option Nat :=
  if 0.0 ≤ x ∧ x < 1.0 then some (x * Float.ofInt ticksPerSecond).toUInt64.toNat else none

def splitFraction? (text : List Char) : Option (List Char × Nat) :=
  match text.span (· ≠ '+') with
  | (_, []) => some (text, 0)
  | (stamp, _ :: fraction) => do
      let x ← Decimal.read? (Text.trim fraction)
      some (Text.trimEnd stamp, ← fractionTicks? x)

def yearStart (year : Int) : Int :=
  (Date.mk year 1 1).toDays * 86400

/-- The second at which the clocks of a zone show a stamp, if there is just one, and the calendar
reaches back to it. -/
def secondOf? (zone : Zone) (s : Stamp) : Option Int :=
  match zone.instants s.toSeconds with
  | [second] => if yearStart Stamp.firstYear ≤ second then some second else none
  | _ => none

/-- The tick at a second and a part of it. Neither the ticks up to the second nor those up to the
part of it may be out of range. -/
def tickAt (second : Int) (ticks : Nat) : Except TimeError Tick :=
  match (Tick.ofInt? (second * ticksPerSecond)).bind fun t => Tick.ofInt? (t.toInt + ticks) with
  | some t => .ok t
  | none => .error (.outOfRange second)

def tick (text : String) (zone : Zone) : Except TimeError Tick :=
  let chars := Text.trim text.toList
  match Decimal.tick? chars with
  | some t => .ok t
  | none =>
      match splitFraction? chars with
      | none => .error (.malformed (String.ofList chars))
      | some (stamp, ticks) =>
          match Stamp.ofChars? stamp with
          | none => .error (.malformed (String.ofList chars))
          | some s =>
              match secondOf? zone s with
              | none => .error (.doubtful (String.ofList stamp) zone.name)
              | some second => tickAt second ticks

def fractionChars (ticks : Nat) : List Char :=
  Layout.plain.chars (Binary64.finite false ticks (-28)).toFloat

def stampAt (t : Tick) (zone : Zone) : Stamp :=
  Stamp.ofSeconds (zone.reading (t.toInt / ticksPerSecond))

def stampText (t : Tick) (zone : Zone) : String :=
  String.ofList (stampAt t zone).chars

def text (t : Tick) (zone : Zone) : String :=
  String.ofList ((stampAt t zone).chars ++
    '+' :: fractionChars (t.toInt % ticksPerSecond).toNat)

def written (fraction : Bool) (t : Tick) (zone : Zone) : Except TimeError String :=
  let second := t.toInt / ticksPerSecond
  if yearStart Stamp.firstYear ≤ second ∧ second < yearStart (Stamp.lastYear + 1) then
    .ok (if fraction then text t zone else stampText t zone)
  else .error (.outOfRange t.toInt)

end SpanQuery.Calendar
