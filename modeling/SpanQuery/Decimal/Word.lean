import SpanQuery.Tick

namespace SpanQuery.Decimal

inductive NumberFault where
  | emptyInteger
  | invalidDigit
  | tooLarge
  | tooSmall
  | emptyFloat
  | invalidFloat
  deriving Repr, DecidableEq

def NumberFault.message : NumberFault → String
  | emptyInteger => "cannot parse integer from empty string"
  | invalidDigit => "invalid digit found in string"
  | tooLarge => "number too large to fit in target type"
  | tooSmall => "number too small to fit in target type"
  | emptyFloat => "cannot parse float from empty string"
  | invalidFloat => "invalid float literal"

def digitValue? (radix : Nat) (c : Char) : Option Nat :=
  let n :=
    if c.isDigit then some (c.toNat - '0'.toNat)
    else if 'a' ≤ c ∧ c ≤ 'z' then some (c.toNat - 'a'.toNat + 10)
    else if 'A' ≤ c ∧ c ≤ 'Z' then some (c.toNat - 'A'.toNat + 10)
    else none
  n.filter (· < radix)

def magnitude (radix limit : Nat) (beyond : NumberFault) (n : Nat) :
    List Char → Except NumberFault Nat
  | [] => .ok n
  | c :: rest =>
      match digitValue? radix c with
      | none => .error .invalidDigit
      | some d =>
          if limit < radix * n + d then .error beyond
          else magnitude radix limit beyond (radix * n + d) rest

def wordIn (radix : Nat) (s : List Char) : Except NumberFault Tick :=
  match s with
  | [] => .error .emptyInteger
  | ['+'] | ['-'] => .error .invalidDigit
  | '-' :: ds => do .ok (Int64.ofInt (-(← magnitude radix least .tooSmall 0 ds)))
  | '+' :: ds => do .ok (Int64.ofInt (← magnitude radix greatest .tooLarge 0 ds))
  | ds => do .ok (Int64.ofInt (← magnitude radix greatest .tooLarge 0 ds))
where
  least : Nat := Int64.minValue.toInt.natAbs
  greatest : Nat := Int64.maxValue.toInt.natAbs

def tick? (s : List Char) : Option Tick :=
  (wordIn 10 s).toOption

end SpanQuery.Decimal
