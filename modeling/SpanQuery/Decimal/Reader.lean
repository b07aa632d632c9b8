namespace SpanQuery.Decimal

def natural (ds : List Char) : Nat :=
  ds.foldl (fun n d => 10 * n + (d.toNat - '0'.toNat)) 0

/-- A sign and what follows it; a text without one counts as positive. -/
def splitSign : List Char → Bool × List Char
  | '-' :: rest => (true, rest)
  | '+' :: rest => (false, rest)
  | rest => (false, rest)

def exponent? : List Char → Option Int
  | [] => some 0
  | mark :: rest =>
      if mark == 'e' || mark == 'E' then
        let (negative, ds) := splitSign rest
        if ds.isEmpty || !ds.all Char.isDigit then none
        else some (if negative then -(natural ds) else natural ds)
      else none

/-- The double nearest to `m * 10 ^ e`. No power of ten is computed where it cannot matter. -/
def scaled (m : Nat) (e : Int) : Float :=
  if m = 0 ∨ e < -(m.log2 + 330) then 0.0
  else if 310 < e then 1.0 / 0.0
  else Float.ofScientific m (e < 0) e.natAbs

def unsigned? (s : List Char) : Option Float := do
  let (whole, rest) := s.span Char.isDigit
  let (fraction, rest) := match rest with
    | '.' :: rest => rest.span Char.isDigit
    | rest => ([], rest)
  if whole.isEmpty && fraction.isEmpty then none
  else
    let e ← exponent? rest
    some (scaled (natural (whole ++ fraction)) (e - fraction.length))

/-- A decimal with an optional sign, or a name of a value that has no digits, in any letter case. -/
def read? (s : List Char) : Option Float := do
  let (negative, body) := splitSign s
  let word := String.ofList (body.map Char.toLower)
  let x ← if word = "inf" || word = "infinity" then some (1.0 / 0.0)
    else if word = "nan" then some (0.0 / 0.0)
    else unsigned? body
  some (if negative then -x else x)

end SpanQuery.Decimal
