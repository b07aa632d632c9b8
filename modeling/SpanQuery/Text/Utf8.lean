namespace SpanQuery.Text

abbrev Bytes := List UInt8

def encode (s : String) : Bytes :=
  s.toUTF8.toList

def isContinuation (b : UInt8) : Bool :=
  0x80 ≤ b && b ≤ 0xBF

/-- A second byte that completes neither an overlong form, nor a surrogate, nor a value beyond the
last character. -/
def isSecond (first second : UInt8) : Bool :=
  isContinuation second &&
    (first != 0xE0 || 0xA0 ≤ second) && (first != 0xED || second ≤ 0x9F) &&
    (first != 0xF0 || 0x90 ≤ second) && (first != 0xF4 || second ≤ 0x8F)

def lowBits (b : UInt8) (count : Nat) : Nat :=
  b.toNat % (1 <<< count)

/-- The characters at the start of some bytes, up to the first byte that is no part of one, and the
bytes from there on. -/
def decodePrefix : Bytes → List Char × Bytes
  | [] => ([], [])
  | a :: rest =>
      if a < 0x80 then
        let (cs, bad) := decodePrefix rest
        (Char.ofNat a.toNat :: cs, bad)
      else
        match rest with
        | b :: rest₁ =>
            if 0xC2 ≤ a && a ≤ 0xDF && isContinuation b then
              let (cs, bad) := decodePrefix rest₁
              (Char.ofNat (lowBits a 5 * 64 + lowBits b 6) :: cs, bad)
            else
              match rest₁ with
              | c :: rest₂ =>
                  if 0xE0 ≤ a && a ≤ 0xEF && isSecond a b && isContinuation c then
                    let (cs, bad) := decodePrefix rest₂
                    (Char.ofNat (lowBits a 4 * 4096 + lowBits b 6 * 64 + lowBits c 6) :: cs, bad)
                  else
                    match rest₂ with
                    | d :: rest₃ =>
                        if 0xF0 ≤ a && a ≤ 0xF4 && isSecond a b && isContinuation c &&
                            isContinuation d then
                          let (cs, bad) := decodePrefix rest₃
                          (Char.ofNat (lowBits a 3 * 262144 + lowBits b 6 * 4096 +
                            lowBits c 6 * 64 + lowBits d 6) :: cs, bad)
                        else ([], a :: rest)
                    | [] => ([], a :: rest)
              | [] => ([], a :: rest)
        | [] => ([], a :: rest)

/-- The characters that the bytes stand for, or the number of bytes before the first one that is no
part of a character. -/
def decode (bytes : Bytes) : Except Nat (List Char) :=
  match decodePrefix bytes with
  | (cs, []) => .ok cs
  | (_, bad) => .error (bytes.length - bad.length)

end SpanQuery.Text
