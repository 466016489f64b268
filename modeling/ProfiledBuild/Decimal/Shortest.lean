/-! The shortest decimal form of a floating-point number: of all decimals that read back as the
number, those with the fewest digits, and of these the nearest. The search is in exact arithmetic
on the number's significand and exponent. -/

namespace ProfiledBuild

/-- A positive decimal `digits · 10 ^ exponent`. -/
structure Decimal where
  digits : Nat
  exponent : Int
  deriving DecidableEq, Repr

namespace Decimal

/-- The binary value `significand · 2 ^ exponent`, with the closer lower neighbour of a power of
two marked. -/
structure Binary where
  significand : Nat
  exponent : Int
  lowerIsCloser : Bool
  deriving DecidableEq, Repr

def Binary.ofBits (bits : UInt64) : Binary :=
  let field := ((bits >>> 52) &&& 0x7FF).toNat
  let fraction := (bits &&& 0xFFFFFFFFFFFFF).toNat
  if field = 0 then ⟨fraction, -1074, false⟩
  else ⟨0x10000000000000 + fraction, (field : Int) - 1075, fraction = 0 && field > 1⟩

/-- The ratio `n · base ^ e / d` as a pair of naturals. -/
def scale (base n d : Nat) (e : Int) : Nat × Nat :=
  if 0 ≤ e then (n * base.pow e.toNat, d) else (n, d * base.pow (-e).toNat)

/-- The decimals `k · 10 ^ p` next to `n / d`, below and above, that lie in the interval of
numbers that round to it, the nearer one first chosen; a tie takes the even one. Quarter steps of
the significand make the interval's ends whole. -/
def onGrid? (b : Binary) (p : Int) : Option Nat :=
  let scaled (quarters : Nat) : Nat × Nat :=
    let (n, d) := scale 2 quarters 4 b.exponent
    scale 10 n d (-p)
  let (n, d) := scaled (4 * b.significand)
  let (low, _) := scaled (4 * b.significand - if b.lowerIsCloser then 1 else 2)
  let (high, _) := scaled (4 * b.significand + 2)
  let closed := b.significand % 2 = 0
  let inside (k : Nat) : Bool :=
    if closed then low ≤ k * d && k * d ≤ high else low < k * d && k * d < high
  let below := n / d
  let above := below + 1
  let distanceBelow := n - below * d
  let distanceAbove := above * d - n
  match inside below, inside above with
  | true, true =>
    if distanceBelow < distanceAbove then some below
    else if distanceAbove < distanceBelow then some above
    else some (if below % 2 = 0 then below else above)
  | true, false => some below
  | false, true => some above
  | false, false => none

def search (b : Binary) : Nat → Int → Option Decimal
  | 0, _ => none
  | fuel + 1, p =>
    match onGrid? b p with
    | some k => some ⟨k, p⟩
    | none => search b fuel (p - 1)

/-- The shortest decimal of a positive finite number. The first grid is coarser than the number
and eighteen digits always suffice. -/
def shortest (x : Float) : Decimal :=
  let b := Binary.ofBits x.toBits
  let bits : Int := (Nat.log2 b.significand : Int) + 1 + b.exponent
  let start := (bits * 30103).fdiv 100000 + 1
  (search b 22 start).getD ⟨0, 0⟩

end Decimal

end ProfiledBuild
