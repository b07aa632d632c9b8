/-!
# Doubles as exact numbers

A double is either no number, a signed infinity, or an exact `± m * 2 ^ q`. Decimal text,
remainders and fractions of a tick are computed on this form in integer arithmetic, so no
rounding happens but the one that a definition names.
-/

namespace SpanQuery

inductive Binary64 where
  | nan
  | infinity (negative : Bool)
  /-- The value `± m * 2 ^ q`, a signed zero when `m = 0`. -/
  | finite (negative : Bool) (m : Nat) (q : Int)
  deriving Repr, DecidableEq

namespace Binary64

def leastExponent : Int := -1074

/-- The highest bit of a normal significand, which its pattern leaves out. -/
def hiddenBit : Nat := 1 <<< 52

def signBit : Nat := 1 <<< 63

def ofBits (bits : Nat) : Binary64 :=
  let negative := bits / signBit % 2 == 1
  let biased : Nat := bits / hiddenBit % 2048
  let fraction : Nat := bits % hiddenBit
  if biased = 2047 then
    if fraction = 0 then .infinity negative else .nan
  else if biased = 0 then
    .finite negative fraction leastExponent
  else
    .finite negative (hiddenBit + fraction) (biased - 1075)

def ofFloat (x : Float) : Binary64 :=
  ofBits x.toBits.toNat

/-- The pattern of `m * 2 ^ q`, exact when a double holds that value. -/
def magnitudeBits (m : Nat) (q : Int) : Nat :=
  if m = 0 then 0 else
    let lowest := max leastExponent (q + m.log2 - 52)
    let scaled := if lowest ≤ q then m <<< (q - lowest).toNat else m >>> (lowest - q).toNat
    if scaled < hiddenBit then scaled
    else if 971 < lowest then 2047 * hiddenBit
    else (lowest + 1075).toNat * hiddenBit + (scaled - hiddenBit)

def toBits : Binary64 → Nat
  | .nan => 2047 * hiddenBit + hiddenBit / 2
  | .infinity negative => (if negative then signBit else 0) + 2047 * hiddenBit
  | .finite negative m q => (if negative then signBit else 0) + magnitudeBits m q

def toFloat (x : Binary64) : Float :=
  Float.ofBits (UInt64.ofNat x.toBits)

def floorMagnitude (m : Nat) (q : Int) : Nat :=
  if 0 ≤ q then m <<< q.toNat else m >>> (-q).toNat

/-- Remainder of truncated division, computed without rounding; it has the sign of the dividend.
There is none for an infinite dividend or a zero divisor. -/
def remainder : Binary64 → Binary64 → Binary64
  | .finite negative m q, .finite _ n r =>
      if n = 0 then .nan
      else
        let e := min q r
        .finite negative ((m <<< (q - e).toNat) % (n <<< (r - e).toNat)) e
  | .finite negative m q, .infinity _ => .finite negative m q
  | _, _ => .nan

end Binary64

def truncatedRemainder (a b : Float) : Float :=
  ((Binary64.ofFloat a).remainder (Binary64.ofFloat b)).toFloat

def flooredRemainder (a b : Float) : Float :=
  let r := truncatedRemainder a b
  if r != 0.0 && (r < 0.0) != (b < 0.0) then r + b else r

end SpanQuery
