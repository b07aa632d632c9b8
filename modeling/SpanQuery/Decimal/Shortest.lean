import SpanQuery.Decimal.Binary64

/-!
# The fewest digits that read back

A positive double `m * 2 ^ q` stands for every real nearer to it than to its neighbours. The
shortest decimal inside that span is found grid by grid, coarsest first: on the grid of multiples
of `10 ^ k` only the two points around the value can be the answer.
-/

namespace SpanQuery

structure Scientific where
  digits : Nat
  exponent : Int
  deriving Repr, DecidableEq

inductive Tie where
  | up
  | toEven
  deriving Repr, DecidableEq

namespace Shortest

/-- A point `c` of the grid and a bound `u` compare as `c * gridUnit` and `u * spanUnit`; bounds
are counted in quarters of the double's last place. -/
def gridUnit (q k : Int) : Nat :=
  Nat.pow 10 k.toNat <<< (2 - q).toNat

def spanUnit (q k : Int) : Nat :=
  Nat.pow 10 (-k).toNat <<< (q - 2).toNat

/-- The gap below a power of two is half as wide as the one above it. -/
def gapBelow (m : Nat) (q : Int) : Nat :=
  if m = Binary64.hiddenBit ∧ Binary64.leastExponent < q then 1 else 2

/-- Whether the grid point `c * 10 ^ k` reads back as `m * 2 ^ q`; the ends of the span belong to
the value with an even mantissa. -/
def readsBack (m : Nat) (q k : Int) (c : Nat) : Bool :=
  let low := (4 * m - gapBelow m q) * spanUnit q k
  let high := (4 * m + 2) * spanUnit q k
  let point := c * gridUnit q k
  if m % 2 = 0 then low ≤ point && point ≤ high else low < point && point < high

/-- The point of the grid that reads back, the nearer if both neighbours do. -/
def onGrid (tie : Tie) (m : Nat) (q k : Int) : Option Nat :=
  let value := 4 * m * spanUnit q k
  let c := value / gridUnit q k
  match readsBack m q k c, readsBack m q k (c + 1) with
  | false, false => none
  | true, false => some c
  | false, true => some (c + 1)
  | true, true =>
      match compare (value - c * gridUnit q k) ((c + 1) * gridUnit q k - value), tie with
      | .lt, _ => some c
      | .gt, _ => some (c + 1)
      | .eq, .up => some (c + 1)
      | .eq, .toEven => some (if c % 2 = 0 then c else c + 1)

def digitCount (n : Nat) : Nat :=
  (Nat.toDigits 10 n).length

/-- The exponent `e` with `10 ^ e ≤ m * 2 ^ q < 10 ^ (e + 1)`. -/
def leadingExponent (m : Nat) (q : Int) : Int :=
  let num := m <<< q.toNat
  let den := 1 <<< (-q).toNat
  if den ≤ num then digitCount (num / den) - 1
  else
    let places := digitCount (den / num)
    if num * Nat.pow 10 (places - 1) = den then 1 - places else -places

end Shortest

/-- The shortest decimal that reads back as the positive double `m * 2 ^ q`; seventeen digits
always suffice. -/
def shortest (tie : Tie) (m : Nat) (q : Int) : Scientific :=
  let e := Shortest.leadingExponent m q
  let grids := (List.range 17).map fun (n : Nat) => e - n
  (grids.findSome? fun k => (Shortest.onGrid tie m q k).map (Scientific.mk · k)).getD
    ⟨4 * m * Shortest.spanUnit q (e - 16) / Shortest.gridUnit q (e - 16), e - 16⟩

end SpanQuery
