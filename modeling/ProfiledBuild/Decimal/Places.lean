/-! Decimal forms with as many places as are asked for. Quantities are exact ratios; what a machine
keeps of them has so many binary digits. -/

namespace ProfiledBuild

/-- A number that can be written down: a ratio with a sign, or none of the numbers. The denominator
is not 0. -/
inductive Quantity where
  | finite (negative : Bool) (num den : Nat)
  | infinite (negative : Bool)
  | none
  deriving DecidableEq, Repr

namespace Quantity

/-- The whole number that is nearest to a ratio; of two the even one. -/
def nearest (n d : Nat) : Nat :=
  let q := n / d
  let r := n % d
  if 2 * r < d then q else if d < 2 * r then q + 1 else q + q % 2

/-- The ratio that has only so many binary digits and is nearest to another one. -/
def rounded (bits n d : Nat) : Nat × Nat :=
  if n = 0 then (0, 1)
  else
    let shift : Int := (bits : Int) + Nat.log2 d - Nat.log2 n
    let scaled (shift : Int) : Nat × Nat := (n <<< shift.toNat, d <<< (-shift).toNat)
    let (a, b) := scaled shift
    let shift := if (a / b) >>> bits = 0 then shift else shift - 1
    let (a, b) := scaled shift
    let m := nearest a b
    (m <<< (-shift).toNat, 1 <<< shift.toNat)

def withBits (bits : Nat) : Quantity → Quantity
  | .finite negative n d => let (n, d) := rounded bits n d; .finite negative n d
  | q => q

def pointed (places : Nat) (marked : Bool) (n : Nat) : List Char :=
  let digits := (toString n).toList
  let digits := List.replicate (places + 1 - digits.length) '0' ++ digits
  let whole := digits.take (digits.length - places)
  if places = 0 then (if marked then whole ++ ['.'] else whole)
  else whole ++ '.' :: digits.drop (digits.length - places)

def fixed (places : Nat) (marked : Bool) (n d : Nat) : List Char :=
  pointed places marked (nearest (n * Nat.pow 10 places) d)

def timesTen (n d : Nat) (e : Int) : Nat × Nat := (n * Nat.pow 10 e.toNat, d * Nat.pow 10 (-e).toNat)

/-- The power of ten at the front of a ratio that is not 0. -/
def leadingPower (n d : Nat) : Int :=
  let guess : Int := ((toString n).length : Int) - (toString d).length
  let (a, b) := timesTen n d (-guess)
  if a < b then guess - 1 else guess

/-- A ratio as so many digits after the first one, and a power of ten. -/
def scientific (places n d : Nat) : Nat × Int :=
  if n = 0 then (0, 0)
  else
    let e := leadingPower n d
    let (a, b) := timesTen n d (places - e)
    let m := nearest a b
    if m = Nat.pow 10 (places + 1) then (m / 10, e + 1) else (m, e)

/-- The power of ten after an `e`, with two digits at least. -/
def powerMark (letter : Char) (e : Int) : List Char :=
  let digits := (toString e.natAbs).toList
  letter :: (if e < 0 then '-' else '+') :: List.replicate (2 - digits.length) '0' ++ digits

def withPower (places : Nat) (marked : Bool) (letter : Char) (n d : Nat) : List Char :=
  let (m, e) := scientific places n d
  pointed places marked m ++ powerMark letter e

def withoutZeros (text : List Char) : List Char :=
  if !text.contains '.' then text
  else
    let kept := text.reverse.dropWhile (· = '0')
    (if kept.head? = some '.' then kept.tail else kept).reverse

/-- So many digits that count, in the form that is shorter. -/
def general (digits : Nat) (marked : Bool) (letter : Char) (n d : Nat) : List Char :=
  let digits := max digits 1
  let (m, e) := scientific (digits - 1) n d
  let trim (text : List Char) : List Char := if marked then text else withoutZeros text
  if -4 ≤ e ∧ e < digits then trim (fixed (digits - 1 - e).toNat marked n d)
  else trim (pointed (digits - 1) marked m) ++ powerMark letter e

end Quantity

end ProfiledBuild
