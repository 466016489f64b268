/-! Run identifiers: random numbers of 128 bits, with a version and a variant marked in them. -/

namespace ProfiledBuild

structure RunId where
  high : UInt64
  low : UInt64
  deriving DecidableEq, Repr

namespace RunId

/-- The identifier made of random bits. The version is in bits 12 to 15 of the high half, the
variant in the top two bits of the low half. -/
def ofRandom (high low : UInt64) : RunId where
  high := (high &&& 0xFFFFFFFFFFFF0FFF) ||| 0x0000000000004000
  low := (low &&& 0x3FFFFFFFFFFFFFFF) ||| 0x8000000000000000

def version (r : RunId) : Nat := ((r.high >>> 12) &&& 0xF).toNat

def hexDigits (width n : Nat) : String :=
  let digits := Nat.toDigits 16 n
  String.ofList (List.replicate (width - digits.length) '0' ++ digits)

def text (r : RunId) : String :=
  hexDigits 8 (r.high >>> 32).toNat ++ "-" ++ hexDigits 4 ((r.high >>> 16) &&& 0xFFFF).toNat ++
    "-" ++ hexDigits 4 (r.high &&& 0xFFFF).toNat ++
    "-" ++ hexDigits 4 (r.low >>> 48).toNat ++ "-" ++ hexDigits 12 (r.low &&& 0xFFFFFFFFFFFF).toNat

end RunId

end ProfiledBuild
