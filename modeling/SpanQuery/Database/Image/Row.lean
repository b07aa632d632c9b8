import SpanQuery.Database
import SpanQuery.Text.Utf8

/-!
# Rows in bytes

A row is stored as the classes of its cells followed by their contents. Numbers have their most
significant byte first. Counts take as few bytes as they need, seven bits in each but the ninth.
-/

namespace SpanQuery.Image

open Text (Bytes)

/-! ## Numbers -/

def bigEndian : Nat → Nat → Bytes
  | 0, _ => []
  | width + 1, n => bigEndian width (n / 256) ++ [UInt8.ofNat (n % 256)]

def natural (bytes : Bytes) : Nat :=
  bytes.foldl (fun n b => 256 * n + b.toNat) 0

/-- A word as a count; a negative one is counted down from beyond the greatest. -/
def unsigned (n : Tick) : Nat :=
  n.toUInt64.toNat

def signed (width : Nat) (n : Tick) : Bytes :=
  bigEndian width (unsigned n)

def integer (bytes : Bytes) : Int :=
  let n := natural bytes
  let bound : Nat := 1 <<< (8 * bytes.length)
  if 2 * n < bound then n else n - bound

def groups : Nat → Nat → Bytes
  | 0, _ => []
  | count + 1, n => groups count (n / 128) ++ [UInt8.ofNat (n % 128 + 128)]

def groupCount (n : Nat) : Nat :=
  if n = 0 then 0 else groupCount (n / 128) + 1

/-- A count below `2 ^ 64`. -/
def count (n : Nat) : Bytes :=
  if n < 1 <<< 56 then groups (groupCount (n / 128)) (n / 128) ++ [UInt8.ofNat (n % 128)]
  else groups 8 (n / 256) ++ [UInt8.ofNat (n % 256)]

/-- Reads on in a count, of which so many bytes may follow before the last possible one. -/
def countFrom? : Nat → Nat → Bytes → Option (Nat × Bytes)
  | _, _, [] => none
  | 0, n, b :: rest => some (256 * n + b.toNat, rest)
  | left + 1, n, b :: rest =>
      if b < 128 then some (128 * n + b.toNat, rest)
      else countFrom? left (128 * n + (b.toNat - 128)) rest

def count? (bytes : Bytes) : Option (Nat × Bytes) :=
  countFrom? 8 0 bytes

theorem length_lt_of_countFrom? {left n m : Nat} {bytes rest : Bytes}
    (h : countFrom? left n bytes = some (m, rest)) : rest.length < bytes.length := by
  fun_induction countFrom? left n bytes with
  | case1 => simp at h
  | case2 => simp_all
  | case3 => simp_all
  | case4 left n b bs _ ih =>
      have := ih h
      simp only [List.length_cons]
      omega

/-! ## Cells -/

/-- Whether so many bytes, at least one, hold a signed number. -/
def fits (width : Nat) (n : Int) : Bool :=
  let bound : Nat := 1 <<< (8 * width - 1)
  n < bound && -(bound : Int) ≤ n

/-- The class of an integer and the count of its bytes, the smallest that hold it. -/
def integerClass (n : Int) : Nat × Nat :=
  if n = 0 then (8, 0)
  else if n = 1 then (9, 0)
  else if fits 1 n then (1, 1)
  else if fits 2 n then (2, 2)
  else if fits 3 n then (3, 3)
  else if fits 4 n then (4, 4)
  else if fits 6 n then (5, 6)
  else (6, 8)

def cell : Cell → Nat × Bytes
  | .null => (0, [])
  | .integer n =>
      let (kind, width) := integerClass n.toInt
      (kind, signed width n)
  | .real x => (7, bigEndian 8 x.toBits.toNat)
  | .text s =>
      let bytes := Text.encode s
      (13 + 2 * bytes.length, bytes)
  | .blob bytes => (12 + 2 * bytes.length, bytes)

def width (kind : Nat) : Nat :=
  match kind with
  | 1 => 1
  | 2 => 2
  | 3 => 3
  | 4 => 4
  | 5 => 6
  | 6 | 7 => 8
  | kind => if kind < 12 then 0 else (kind - 12) / 2

/-- A cell of a class with its contents. A text that is none stays what it is, bytes. -/
def cellOf (kind : Nat) (bytes : Bytes) : Cell :=
  if kind = 0 then .null
  else if kind = 7 then
    let x := Float.ofBits (UInt64.ofNat (natural bytes))
    if x.isNaN then .null else .real x
  else if kind = 8 then .integer 0
  else if kind = 9 then .integer 1
  else if kind < 7 then .integer (Int64.ofInt (integer bytes))
  else if kind % 2 = 0 then .blob bytes
  else
    match Text.decode bytes with
    | .ok cs => .text (String.ofList cs)
    | .error _ => .blob bytes

/-! ## Rows -/

def row (cells : List Cell) : Bytes :=
  let parts := cells.map cell
  let kinds := parts.flatMap fun (kind, _) => count kind
  let size := kinds.length + 1
  let size := if size < 128 then size else if size + 1 < 128 * 128 then size + 1 else size + 2
  count size ++ kinds ++ parts.flatMap (·.2)

def counts? (bytes : Bytes) : Option (List Nat) :=
  match bytes with
  | [] => some []
  | b :: rest =>
      match _h : count? (b :: rest) with
      | none => none
      | some (n, rest) => (counts? rest).map (n :: ·)
termination_by bytes.length
decreasing_by exact length_lt_of_countFrom? _h

def cells (kinds : List Nat) (bytes : Bytes) : List Cell :=
  match kinds with
  | [] => []
  | kind :: kinds =>
      cellOf kind (bytes.take (width kind)) :: cells kinds (bytes.drop (width kind))

def row? (bytes : Bytes) : Option (List Cell) := do
  let (size, rest) ← count? bytes
  let head := size - (bytes.length - rest.length)
  some (cells (← counts? (rest.take head)) (rest.drop head))

end SpanQuery.Image
