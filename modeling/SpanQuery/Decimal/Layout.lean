import SpanQuery.Decimal.Shortest

namespace SpanQuery

structure Layout where
  tie : Tie
  /-- The least and the greatest decimal exponent written positionally; without bounds, all. -/
  positional : Option (Int × Int)
  wholeMark : String
  exponentSign : String
  nan : String
  infinity : String
  negativeInfinity : String
  deriving Repr

namespace Layout

/-- Queries, tables and messages: every digit is written out, a half goes up. -/
def plain : Layout where
  tie := .up
  positional := none
  wholeMark := ""
  exponentSign := ""
  nan := "NaN"
  infinity := "inf"
  negativeInfinity := "-inf"

/-- JSON: positional from `0.00001` below `1e+16`, with a decimal point always; what is not finite
is `null`. -/
def json : Layout where
  tie := .toEven
  positional := some (-5, 15)
  wholeMark := ".0"
  exponentSign := "+"
  nan := "null"
  infinity := "null"
  negativeInfinity := "null"

/-- Comma-separated records: as in JSON, but a large exponent has no sign and no value is lost. -/
def record : Layout where
  tie := .toEven
  positional := some (-5, 15)
  wholeMark := ".0"
  exponentSign := ""
  nan := "NaN"
  infinity := "inf"
  negativeInfinity := "-inf"

def isPositional (layout : Layout) (e : Int) : Bool :=
  match layout.positional with
  | none => true
  | some (least, greatest) => least ≤ e && e ≤ greatest

def positionalText (layout : Layout) (ds : List Char) (point : Int) : List Char :=
  if point ≤ 0 then
    '0' :: '.' :: (List.replicate (-point).toNat '0' ++ ds)
  else if ds.length ≤ point then
    ds ++ List.replicate (point.toNat - ds.length) '0' ++ layout.wholeMark.toList
  else
    ds.take point.toNat ++ '.' :: ds.drop point.toNat

def exponentText (layout : Layout) (ds : List Char) (e : Int) : List Char :=
  let mantissa := match ds with
    | d :: r :: rest => d :: '.' :: r :: rest
    | ds => ds
  let sign := if e < 0 then ['-'] else layout.exponentSign.toList
  mantissa ++ 'e' :: sign ++ Nat.toDigits 10 e.natAbs

def significantDigits (n : Nat) : List Char :=
  ((Nat.toDigits 10 n).reverse.dropWhile (· == '0')).reverse

def magnitude (layout : Layout) (m : Nat) (q : Int) : List Char :=
  let s := shortest layout.tie m q
  let point := Shortest.digitCount s.digits + s.exponent
  let ds := significantDigits s.digits
  if layout.isPositional (point - 1) then layout.positionalText ds point
  else layout.exponentText ds (point - 1)

def chars (layout : Layout) (x : Float) : List Char :=
  match Binary64.ofFloat x with
  | .nan => layout.nan.toList
  | .infinity negative => (if negative then layout.negativeInfinity else layout.infinity).toList
  | .finite negative m q =>
      let body := if m = 0 then '0' :: layout.wholeMark.toList else layout.magnitude m q
      if negative then '-' :: body else body

def text (layout : Layout) (x : Float) : String :=
  String.ofList (layout.chars x)

end Layout

end SpanQuery
