import SpanQuery.Text.Utf8

/-!
# Comma-separated records

A record is a line of fields with commas between them; a carriage return and a line feed both end
a line, and empty lines are no records. A field that starts with a quote goes on to the next single
quote, whatever stands between; two quotes inside it are one. Behind its last quote a field goes on
like one without quotes.
-/

namespace SpanQuery.Csv

open Text (Bytes)

/-- Where the reader stands: the records before it, the line, and the bytes before it. -/
structure Position where
  record : Nat
  line : Nat
  byte : Nat
  deriving Repr, DecidableEq

/-- Fields with the position at which the reader stood before them; empty lines that it went over
belong to what follows. -/
structure Record where
  position : Position
  fields : List Bytes
  deriving Repr, DecidableEq

inductive Mode where
  | fresh
  | plain
  | quoted
  /-- A quote was read that either ends the quoted part or is the first of two. -/
  | afterQuote
  deriving Repr, DecidableEq

def comma : UInt8 := 0x2C

def quote : UInt8 := 0x22

def isLineEnd (b : UInt8) : Bool :=
  b == 0x0A || b == 0x0D

def Position.next (p : Position) (b : UInt8) : Position :=
  { p with line := p.line + (if b = 0x0A then 1 else 0), byte := p.byte + 1 }

structure Split where
  fields : List Bytes
  position : Position
  rest : Bytes

def Split.prepend (s : Split) (field : Bytes) : Split :=
  { s with fields := field :: s.fields }

/-- Splits off a record whose current field has so far the given bytes, the last one first. The end
of all bytes ends the record too. -/
def splitFields (p : Position) (mode : Mode) (field : Bytes) : Bytes → Split
  | [] => ⟨[field.reverse], p, []⟩
  | b :: rest =>
      let p := p.next b
      if b = quote ∧ mode = .fresh then splitFields p .quoted field rest
      else if b = quote ∧ mode = .quoted then splitFields p .afterQuote field rest
      else if b = quote ∧ mode = .afterQuote then splitFields p .quoted (b :: field) rest
      else if mode = .quoted then splitFields p .quoted (b :: field) rest
      else if b = comma then
        (splitFields p .fresh [] rest).prepend field.reverse
      else if isLineEnd b then ⟨[field.reverse], p, rest⟩
      else splitFields p .plain (b :: field) rest

theorem length_rest_splitFields_le (p : Position) (mode : Mode) (field bytes : Bytes) :
    (splitFields p mode field bytes).rest.length ≤ bytes.length := by
  fun_induction splitFields p mode field bytes <;> simp_all [Split.prepend] <;> omega

theorem length_rest_splitFields_lt (p : Position) (field : Bytes) (b : UInt8) (rest : Bytes) :
    (splitFields p .fresh field (b :: rest)).rest.length < (b :: rest).length := by
  have h := fun p mode field => length_rest_splitFields_le p mode field rest
  simp only [splitFields, List.length_cons, reduceCtorEq, and_false, if_false]
  split
  · exact Nat.lt_succ_of_le (h _ _ _)
  · split
    · exact Nat.lt_succ_of_le (h _ _ _)
    · split
      · exact Nat.lt_succ_self _
      · exact Nat.lt_succ_of_le (h _ _ _)

def skipLineEnds (p : Position) : Bytes → Position
  | [] => p
  | b :: rest => if isLineEnd b then skipLineEnds (p.next b) rest else p

def recordsFrom (p : Position) (bytes : Bytes) : List Record :=
  match _h : bytes.dropWhile isLineEnd with
  | [] => []
  | b :: rest =>
      let s := splitFields (skipLineEnds p bytes) .fresh [] (b :: rest)
      ⟨p, s.fields⟩ :: recordsFrom { s.position with record := p.record + 1 } s.rest
termination_by bytes.length
decreasing_by
  have h1 := (List.dropWhile_suffix (l := bytes) isLineEnd).length_le
  have h2 := length_rest_splitFields_lt (skipLineEnds p bytes) [] b rest
  rw [_h] at h1
  omega

/-- The records of a file. A byte order mark at its start is no part of the first field. -/
def records (bytes : Bytes) : List Record :=
  match bytes with
  | 0xEF :: 0xBB :: 0xBF :: rest => recordsFrom ⟨0, 1, 3⟩ rest
  | bytes => recordsFrom ⟨0, 1, 0⟩ bytes

end SpanQuery.Csv
