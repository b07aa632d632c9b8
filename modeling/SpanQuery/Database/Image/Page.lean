import SpanQuery.Database.Image.Row

/-!
# Trees of rows in pages

The rows of a table are the leaves of a tree of pages, ordered by their numbers. A page that is no
leaf names the pages below it. A row that does not fit into its page goes on in a chain of pages of
its own.
-/

namespace SpanQuery.Image

open Text (Bytes)

structure Pages where
  size : Nat
  unused : Nat
  pages : Array Bytes

abbrev Entry := Int × Bytes

def headSize : Nat := 100

def leafMark : Nat := 0x0D

/-- The first byte of a page with other pages below it. -/
def branchMark : Nat := 0x05

/-- The count of bytes of a row that stay in its page, if all bytes that can be used are given. -/
def kept (usable length : Nat) : Nat :=
  if length ≤ usable - 35 then length
  else
    let least := (usable - 12) * 32 / 255 - 23
    let fitting := least + (length - least) % (usable - 4)
    if fitting ≤ usable - 35 then fitting else least

def rowNumber (n : Nat) : Int :=
  (UInt64.ofNat n).toInt64.toInt

namespace Pages

def usable (p : Pages) : Nat := p.size - p.unused

def page? (p : Pages) (number : Nat) : Option Bytes :=
  if number = 0 then none else p.pages[number - 1]?

def chain? (p : Pages) : Nat → Nat → Nat → Option Bytes
  | _, _, 0 => some []
  | 0, _, _ => none
  | fuel + 1, number, length => do
      let page ← p.page? number
      let here := ((page.drop 4).take (p.usable - 4)).take length
      if here.isEmpty then none
      else some (here ++ (← p.chain? fuel (natural (page.take 4)) (length - here.length)))

def entryAt? (p : Pages) (page : Bytes) (place : Nat) : Option Entry := do
  let (length, rest) ← count? (page.drop place)
  let (number, rest) ← count? rest
  let here := kept p.usable length
  let above := natural ((rest.drop here).take 4)
  let more ← if here = length then some [] else p.chain? p.pages.size above (length - here)
  some (rowNumber number, rest.take here ++ more)

/-- Where the cells of a page are, from the counted places behind its head. -/
def places (bytes : Bytes) : Nat → List Nat
  | 0 => []
  | count + 1 => natural (bytes.take 2) :: places (bytes.drop 2) count

/-- The rows below a page, in trees of at most the given height. -/
def entries? (p : Pages) : Nat → Nat → Option (List Entry)
  | 0, _ => none
  | height + 1, number => do
      let page ← p.page? number
      let head := page.drop (if number = 1 then headSize else 0)
      let count := natural ((head.drop 3).take 2)
      let mark := natural (head.take 1)
      if mark = leafMark then (places (head.drop 8) count).mapM (p.entryAt? page)
      else if mark = branchMark then
        let below := (places (head.drop 12) count).map fun place =>
          natural ((page.drop place).take 4)
        let last := natural ((head.drop 8).take 4)
        some (← (below ++ [last]).mapM (p.entries? height)).flatten
      else none

def maxHeight : Nat := 20

def rows? (p : Pages) (root : Nat) : Option (List (Int × List Cell)) := do
  (← p.entries? maxHeight root).mapM fun (number, bytes) => (row? bytes).map (number, ·)

end Pages

/-! ## Writing -/

/-- Pages to be written; the numbers below the next one are given away. -/
structure Draft where
  next : Nat
  pages : List (Nat × Bytes)

namespace Draft

def pageSize : Nat := 4096

def put (number : Nat) (bytes : Bytes) : StateM Draft Unit :=
  modify fun d => { d with pages := (number, bytes) :: d.pages }

def take : StateM Draft Nat := do
  let d ← get
  set { d with next := d.next + 1 }
  return d.next

def padded (size : Nat) (bytes : Bytes) : Bytes :=
  bytes ++ List.replicate (size - bytes.length) 0

def pieces (size : Nat) (bytes : Bytes) : List Bytes :=
  if _ : bytes.length ≤ size ∨ size = 0 then [bytes]
  else bytes.take size :: pieces size (bytes.drop size)
termination_by bytes.length
decreasing_by
  rw [List.length_drop]
  omega

/-- Writes a chain of pages and returns the number of the first; behind the last stands a zero. -/
def chain : List Bytes → StateM Draft Nat
  | [] => return 0
  | piece :: pieces => do
      let number ← take
      let next ← chain pieces
      put number (padded pageSize (bigEndian 4 next ++ piece))
      return number

def leafCell (e : Entry) : StateM Draft Bytes := do
  let (number, bytes) := e
  let here := kept pageSize bytes.length
  let head := count bytes.length ++ count (unsigned (Int64.ofInt number)) ++ bytes.take here
  if here = bytes.length then return head
  else
    let above ← chain (pieces (pageSize - 4) (bytes.drop here))
    return head ++ bigEndian 4 above

def placesFrom (bound : Nat) : List Bytes → List Nat
  | [] => []
  | c :: cells => (bound - c.length) :: placesFrom (bound - c.length) cells

def page (before : Bytes) (mark : Nat) (last : Bytes) (cells : List Bytes) : Bytes :=
  let places := placesFrom pageSize cells
  let start := places.getLast?.getD pageSize
  let head := bigEndian 1 mark ++ [0, 0] ++ bigEndian 2 cells.length ++ bigEndian 2 start ++ [0] ++
    last ++ places.flatMap (bigEndian 2)
  padded start (before ++ head) ++ cells.reverse.flatten

def room (size : α → Nat) (cells : List α) : Nat :=
  cells.foldl (fun n c => n + size c) 0

def divide (size : α → Nat) (room : Nat) (group : List α) (used : Nat) : List α → List (List α)
  | [] => [group.reverse]
  | c :: cells =>
      if group.isEmpty ∨ used + size c ≤ room then
        divide size room (c :: group) (used + size c) cells
      else group.reverse :: divide size room [c] (size c) cells

/-- A page below another one, with the greatest number of a row in it. -/
abbrev Below := Nat × Int

def branchCell (b : Below) : Bytes :=
  bigEndian 4 b.1 ++ count (unsigned (Int64.ofInt b.2))

/-- A page above others; the last one of them stands in its head. -/
def branchPage (before : Bytes) (below : List Below) : Bytes :=
  page before branchMark (bigEndian 4 ((below.getLast?.map (·.1)).getD 0))
    (below.dropLast.map branchCell)

def branches (before : Bytes) (root : Nat) : Nat → List Below → StateM Draft Unit
  | 0, _ => return
  | height + 1, below => do
      let size (b : Below) := (branchCell b).length + 2
      if room size below ≤ pageSize - before.length - 12 then
        put root (branchPage before below)
      else
        let groups := divide size (pageSize - 12) [] 0 below
        let above ← groups.mapM fun group => do
          let number ← take
          put number (branchPage [] group)
          return (number, (group.getLast?.map (·.2)).getD 0)
        branches before root height above

def tree (before : Bytes) (root : Nat) (entries : List Entry) : StateM Draft Unit := do
  let cells ← entries.mapM fun e => do return (← leafCell e, e.1)
  let size (c : Bytes × Int) := c.1.length + 2
  if room size cells ≤ pageSize - before.length - 8 then
    put root (page before leafMark [] (cells.map (·.1)))
  else
    let groups := divide size (pageSize - 8) [] 0 cells
    let below ← groups.mapM fun group => do
      let number ← take
      put number (page [] leafMark [] (group.map (·.1)))
      return (number, (group.getLast?.map (·.2)).getD 0)
    branches before root Pages.maxHeight below

end Draft

end SpanQuery.Image
