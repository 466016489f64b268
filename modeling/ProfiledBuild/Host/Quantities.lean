import ProfiledBuild.Decimal.Places
import ProfiledBuild.Host.Stream

/-! Quantities as words spell them. -/

namespace ProfiledBuild.Tools

def digitValue (c : Char) : Nat :=
  if c.isDigit then c.toNat - 0x30
  else if 'a' ≤ c && c ≤ 'z' then c.toNat - 0x57
  else if 'A' ≤ c && c ≤ 'Z' then c.toNat - 0x37
  else 99

def digitsIn (base : Nat) (s : Raw) : Option Nat × Raw :=
  let ds := s.takeWhile fun c => digitValue c < base
  (if ds = [] then none else some (ds.foldl (fun n d => n * base + digitValue d) 0),
    s.drop ds.length)

def power (letter : Char) (s : Raw) : Int × Raw :=
  match s with
  | c :: rest =>
    if c.toLower ≠ letter then (0, s)
    else
      let (negative, digits) := match rest with
        | '-' :: rest => (true, rest)
        | '+' :: rest => (false, rest)
        | rest => (false, rest)
      match digitsIn 10 digits with
      | (some n, rest) => (if negative then -n else n, rest)
      | (none, _) => (0, s)
  | [] => (0, s)

/-- Digits with a point among them: the number without the point, and how many digits stand after
it. -/
def pointedDigits (base : Nat) (s : Raw) : Option (Nat × Nat) × Raw :=
  let whole := s.takeWhile fun c => digitValue c < base
  let rest := s.drop whole.length
  let (fraction, rest) := match rest with
    | '.' :: after =>
      let fraction := after.takeWhile fun c => digitValue c < base
      if whole = [] ∧ fraction = [] then ([], rest) else (fraction, after.drop fraction.length)
    | rest => ([], rest)
  if whole = [] ∧ fraction = [] then (none, s)
  else (some ((digitsIn base (whole ++ fraction)).1.getD 0, fraction.length), rest)

def namedQuantity (negative : Bool) (s : Raw) : Option (Quantity × Raw) :=
  let starts (name : String) : Bool := name.toList.isPrefixOf (s.map Char.toLower)
  if starts "infinity" then some (.infinite negative, s.drop 8)
  else if starts "inf" then some (.infinite negative, s.drop 3)
  else if starts "nan" then some (.none, s.drop 3)
  else none

/-- Powers past this one are as good as infinite. -/
def farthest : Int := 20000

def leadingQuantity (s : Raw) : Option Quantity × Raw :=
  let text := s.dropWhile fun c => c = ' ' || ('\t' ≤ c && c ≤ '\r')
  let (negative, text) := match text with
    | '-' :: rest => (true, rest)
    | '+' :: rest => (false, rest)
    | text => (false, text)
  let finite (base places : Nat) (n : Nat) (e : Int) : Quantity :=
    let e := e - places
    if n ≠ 0 ∧ farthest < e then .infinite negative
    else if e < -farthest then .finite negative 0 1
    else .finite negative (n * Nat.pow base e.toNat) (Nat.pow base (-e).toNat)
  let hexadecimal : Option (Quantity × Raw) :=
    match text with
    | '0' :: x :: rest =>
      if x.toLower ≠ 'x' then none
      else match pointedDigits 16 rest with
        | (some (n, places), rest) =>
          let (e, rest) := power 'p' rest
          some (finite 2 (4 * places) n e, rest)
        | (none, _) => none
    | _ => none
  match hexadecimal <|> namedQuantity negative text with
  | some (q, rest) => (some q, rest)
  | none =>
    match pointedDigits 10 text with
    | (some (n, places), rest) =>
      let (e, rest) := power 'e' rest
      (some (finite 10 places n e), rest)
    | (none, _) => (none, s)

end ProfiledBuild.Tools
