import ProfiledBuild.Text.Utf8

/-! Octet strings as text: each octet is a character below 256. Syntax on octets, such as that of
shell scripts, is written on this form. -/

namespace ProfiledBuild

abbrev Raw := List Char

namespace Raw

def ofOctets (s : Octets) : Raw := s.map fun b => Char.ofNat b.toNat

def toOctets (r : Raw) : Octets := r.map fun c => UInt8.ofNat c.toNat

def ofString (s : String) : Raw := ofOctets (Utf8.encode s)

def isDigit (c : Char) : Bool := '0' ≤ c && c ≤ '9'

def number? (r : Raw) : Option Nat :=
  if r ≠ [] ∧ r.all isDigit then some (r.foldl (fun n d => n * 10 + (d.toNat - 0x30)) 0) else none

def splitOn (separator : Char) (r : Raw) : List Raw :=
  r.foldr
    (fun c found =>
      if c = separator then [] :: found else (c :: found.headD []) :: found.tail)
    [[]]

def lines (r : Raw) : List Raw :=
  match (splitOn '\n' r).reverse with
  | [] :: rest => rest.reverse
  | all => all.reverse

end Raw

end ProfiledBuild
