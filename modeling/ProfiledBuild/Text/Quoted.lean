import ProfiledBuild.Text.Utf8
import ProfiledBuild.Text.Unshown

/-! Quoted text for diagnostics. A quote, a backslash and whatever cannot be shown are spelled
out, so that the text between the quotes stays on one line and names its characters exactly. -/

namespace ProfiledBuild.Quoted

def hexDigits (n : Nat) : String := String.ofList (Nat.toDigits 16 n)

def spell (c : Char) : String :=
  if c = '\x00' then "\\0"
  else if c = '\t' then "\\t"
  else if c = '\r' then "\\r"
  else if c = '\n' then "\\n"
  else if c = '\\' then "\\\\"
  else if c = '"' then "\\\""
  else if c.toNat < 0x20 || Unshown.contains c then "\\u\x7b" ++ hexDigits c.toNat ++ "\x7d"
  else c.toString

def text (s : String) : String :=
  "\"" ++ String.join (s.toList.map spell) ++ "\""

def upperHexOctet (b : UInt8) : String :=
  let digits := (Nat.toDigits 16 b.toNat).map Char.toUpper
  "\\x" ++ String.ofList (if digits.length < 2 then '0' :: digits else digits)

/-- An octet string in double quotes. Octets that belong to no character appear one by one. -/
def octets (s : Octets) : String :=
  let piece : Utf8.Piece → String
    | .char c => spell c
    | .broken bs => String.join (bs.map upperHexOctet)
  "\"" ++ String.join ((Utf8.pieces s).map piece) ++ "\""

end ProfiledBuild.Quoted
