import ProfiledBuild.Decimal.Shortest
import ProfiledBuild.Json.Basic

/-! The compact text of a JSON value: no blanks, fields in the order in which they stand, control
characters escaped, floating-point numbers in their shortest decimal form. -/

namespace ProfiledBuild.Json

def zeros (n : Nat) : String := String.ofList (List.replicate n '0')

/-- Positional from 0.00001 up to sixteen digits before the point, scientific elsewhere. A
positional number always has a point, a scientific exponent always a sign. -/
def floatText (x : Float) : String :=
  let sign := if x.toBits >>> 63 = 1 then "-" else ""
  if x == 0.0 then sign ++ "0.0"
  else
    let decimal := Decimal.shortest x.abs
    let digits := toString decimal.digits
    let point := decimal.exponent + digits.length
    let body :=
      if 0 ≤ decimal.exponent ∧ point ≤ 16 then
        digits ++ zeros decimal.exponent.toNat ++ ".0"
      else if 0 < point ∧ point ≤ 16 then
        let (whole, fraction) := digits.toList.splitAt point.toNat
        String.ofList whole ++ "." ++ String.ofList fraction
      else if -5 < point ∧ point ≤ 0 then
        "0." ++ zeros (-point).toNat ++ digits
      else
        let (whole, fraction) := digits.toList.splitAt 1
        let mantissa :=
          String.ofList whole ++ (if fraction = [] then "" else "." ++ String.ofList fraction)
        let exponent := point - 1
        mantissa ++ "e" ++ (if 0 ≤ exponent then "+" else "-") ++ toString exponent.natAbs
    sign ++ body

def Number.text : Number → String
  | .int n => toString n
  | .float x => floatText x

def hexDigit (n : Nat) : Char :=
  if n < 10 then Char.ofNat (0x30 + n) else Char.ofNat (0x57 + n)

def escape (c : Char) : List Char :=
  if c = '"' then ['\\', '"']
  else if c = '\\' then ['\\', '\\']
  else if c = '\x08' then ['\\', 'b']
  else if c = '\t' then ['\\', 't']
  else if c = '\n' then ['\\', 'n']
  else if c = '\x0c' then ['\\', 'f']
  else if c = '\r' then ['\\', 'r']
  else if c.toNat < 0x20 then
    ['\\', 'u', '0', '0', hexDigit (c.toNat / 16), hexDigit (c.toNat % 16)]
  else [c]

def stringText (s : String) : String :=
  "\"" ++ String.ofList (s.toList.flatMap escape) ++ "\""

mutual

def text : Json → String
  | .null => "null"
  | .bool true => "true"
  | .bool false => "false"
  | .number n => n.text
  | .string s => stringText s
  | .array items => "[" ++ ",".intercalate (itemTexts items) ++ "]"
  | .object fields => "\x7b" ++ ",".intercalate (fieldTexts fields) ++ "\x7d"

def itemTexts : List Json → List String
  | [] => []
  | v :: rest => text v :: itemTexts rest

def fieldTexts : List (String × Json) → List String
  | [] => []
  | (k, v) :: rest => (stringText k ++ ":" ++ text v) :: fieldTexts rest

end

end ProfiledBuild.Json
