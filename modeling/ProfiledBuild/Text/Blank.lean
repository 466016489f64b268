/-! Blanks: the characters of all scripts that only keep words apart. -/

namespace ProfiledBuild.Blank

def contains (c : Char) : Bool :=
  let n := c.toNat
  (9 ≤ n && n ≤ 13) || n = 0x20 || n = 0x85 || n = 0xA0 || n = 0x1680 ||
    (0x2000 ≤ n && n ≤ 0x200A) || n = 0x2028 || n = 0x2029 || n = 0x202F || n = 0x205F ||
    n = 0x3000

def trimStart (s : List Char) : List Char := s.dropWhile contains

def trim (s : List Char) : List Char := (trimStart (trimStart s).reverse).reverse

end ProfiledBuild.Blank
