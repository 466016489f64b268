import ProfiledBuild.Json.Document

/-! The tokens of JSON text: numbers and strings. A token is read and stepped over in one pass,
because the two can end differently: `1e999` has no value and is a token all the same. -/

namespace ProfiledBuild.Json

inductive Token (α : Type) where
  | whole (value : Except Fault α) (rest : List Char)
  | broken (read skip : Fault)

namespace Token

def map (f : α → β) : Token α → Token β
  | .whole value rest => .whole (value.map f) rest
  | .broken read skip => .broken read skip

/-- Reading has failed here; stepping over goes on. -/
def poison (fault : Fault) : Token α → Token α
  | .whole _ rest => .whole (.error fault) rest
  | .broken _ skip => .broken fault skip

end Token

/-- What is wrong where a character is missing: the text ends, or another one stands there. -/
def Fault.before : List Char → Fault
  | [] => .truncated
  | _ => .malformed

def digit? (c : Char) : Option Nat :=
  if '0' ≤ c ∧ c ≤ '9' then some (c.toNat - 0x30) else none

def digits : List Char → List Nat × List Char
  | [] => ([], [])
  | c :: rest =>
    match digit? c with
    | none => ([], c :: rest)
    | some d => (d :: (digits rest).1, (digits rest).2)

/-- Gathers digits into a number no greater than `limit`, and counts the digits left out. -/
def gather (limit : Nat) (acc : Nat) : List Nat → Nat × Nat
  | [] => (acc, 0)
  | d :: ds =>
    if limit < acc * 10 + d then (acc, ds.length + 1) else gather limit (acc * 10 + d) ds

def maxSignificand : Nat := 18446744073709551615

def maxExponent : Nat := 2147483647

def powerOfTen (n : Nat) : Float := Float.ofScientific 1 false n

/-- Scales by a power of ten in steps of at most 308, each of them rounded. There is no result
past the largest finite number. -/
def scaleByTen? (x : Float) (exponent : Int) : Nat → Option Float
  | 0 => some x
  | fuel + 1 =>
    if exponent.natAbs ≤ 308 then
      if 0 ≤ exponent then
        let scaled := x * powerOfTen exponent.natAbs
        if scaled.isInf then none else some scaled
      else some (x / powerOfTen exponent.natAbs)
    else if x == 0.0 then some x
    else if 0 ≤ exponent then none
    else scaleByTen? (x / powerOfTen 308) (exponent + 308) fuel

/-- The floating-point number `significand · 10 ^ exponent`, if it is in range. Two steps of 308
bring every significand to zero. -/
def floatOf (negative : Bool) (significand : Nat) (exponent : Int) : Except Fault Number :=
  match scaleByTen? significand.toUInt64.toFloat exponent 4 with
  | none => .error .malformed
  | some x => .ok (.float (if negative then -x else x))

/-- A whole number stays one while it fits in 64 bits; `-0` does not. -/
def wholeNumber (negative : Bool) (significand : Nat) : Number :=
  if negative = false then .int significand
  else if 0 < significand ∧ significand ≤ 9223372036854775808 then .int (-significand)
  else .float (-significand.toUInt64.toFloat)

def exponentPart (negative : Bool) (significand : Nat) (exponent : Int) (s : List Char) :
    Token Number :=
  let (downwards, s) := match s with
    | '+' :: rest => (false, rest)
    | '-' :: rest => (true, rest)
    | _ => (false, s)
  let (ds, rest) := digits s
  if ds = [] then .broken (.before s) .malformed
  else
    let (size, dropped) := gather maxExponent 0 ds
    if dropped ≠ 0 then
      if significand ≠ 0 ∧ !downwards then .whole (.error .malformed) rest
      else .whole (.ok (.float (if negative then -0.0 else 0.0))) rest
    else
      .whole (floatOf negative significand (if downwards then exponent - size else exponent + size))
        rest

/-- What follows a fraction: an exponent part or the end of the number. -/
def afterFraction (negative : Bool) (significand : Nat) (exponent : Int) :
    List Char → Token Number
  | 'e' :: rest => exponentPart negative significand exponent rest
  | 'E' :: rest => exponentPart negative significand exponent rest
  | s => .whole (floatOf negative significand exponent) s

/-- The fraction, after its point. Digits past the largest significand are dropped. -/
def fractionPart (negative : Bool) (significand : Nat) (exponent : Int) (s : List Char) :
    Token Number :=
  let (ds, rest) := digits s
  if ds = [] then .broken (.before s) .malformed
  else
    let (significand, dropped) := gather maxSignificand significand ds
    afterFraction negative significand (exponent - (ds.length - dropped : Nat)) rest

def afterWhole (negative : Bool) (significand dropped : Nat) : List Char → Token Number
  | '.' :: rest => fractionPart negative significand dropped rest
  | 'e' :: rest => exponentPart negative significand dropped rest
  | 'E' :: rest => exponentPart negative significand dropped rest
  | s =>
    if dropped = 0 then .whole (.ok (wholeNumber negative significand)) s
    else .whole (floatOf negative significand dropped) s

/-- A number without its sign. No digit follows a leading zero. -/
def unsignedNumber (negative : Bool) (s : List Char) : Token Number :=
  match digits s with
  | ([], _) => .broken (.before s) .malformed
  | ([0], rest) => afterWhole negative 0 0 rest
  | (0 :: _ :: _, _) => .broken .malformed .malformed
  | (ds, rest) =>
    let (significand, dropped) := gather maxSignificand 0 ds
    afterWhole negative significand dropped rest

def hexValue? (c : Char) : Option Nat :=
  if '0' ≤ c ∧ c ≤ '9' then some (c.toNat - 0x30)
  else if 'a' ≤ c ∧ c ≤ 'f' then some (c.toNat - 0x57)
  else if 'A' ≤ c ∧ c ≤ 'F' then some (c.toNat - 0x37)
  else none

def hexValue4? (a b c d : Char) : Option Nat := do
  let a ← hexValue? a
  let b ← hexValue? b
  let c ← hexValue? c
  let d ← hexValue? d
  return ((a * 16 + b) * 16 + c) * 16 + d

/-- The fault of an escape that lacks its four hexadecimal digits: the text counts as ended when
fewer than four octets are left. -/
def shortEscape (s : List Char) : Fault :=
  if (Utf8.encode (String.ofList (s.take 4))).length < 4 then .truncated else .malformed

def lowSurrogate? : List Char → Except Fault Nat
  | [] => .error .truncated
  | ['\\'] => .error .truncated
  | '\\' :: 'u' :: s =>
    match s with
    | a :: b :: c :: d :: _ =>
      match hexValue4? a b c d with
      | none => .error .malformed
      | some n => if 0xDC00 ≤ n ∧ n ≤ 0xDFFF then .ok n else .error .malformed
    | s => .error (shortEscape s)
  | _ => .error .malformed

def shortEscapes : List (Char × Char) :=
  [('"', '"'), ('\\', '\\'), ('/', '/'), ('b', '\x08'), ('f', '\x0c'), ('n', '\n'), ('r', '\r'),
    ('t', '\t')]

/-- The characters of a string up to its closing quote. Half a surrogate pair has no value but
is stepped over. -/
def stringBody : List Char → Token (List Char)
  | [] => .broken .truncated .truncated
  | '"' :: rest => .whole (.ok []) rest
  | ['\\'] => .broken .truncated .truncated
  | '\\' :: 'u' :: a :: b :: c :: d :: rest =>
    match hexValue4? a b c d with
    | none => .broken .malformed .malformed
    | some n =>
      if 0xDC00 ≤ n ∧ n ≤ 0xDFFF then (stringBody rest).poison .malformed
      else if 0xD800 ≤ n ∧ n ≤ 0xDBFF then
        match lowSurrogate? rest with
        | .error fault => (stringBody rest).poison fault
        | .ok low =>
          (stringBody (rest.drop 6)).map
            (Char.ofNat (0x10000 + (n - 0xD800) * 0x400 + (low - 0xDC00)) :: ·)
      else (stringBody rest).map (Char.ofNat n :: ·)
  | '\\' :: 'u' :: s => .broken (shortEscape s) (shortEscape s)
  | '\\' :: c :: rest =>
    match shortEscapes.lookup c with
    | none => .broken .malformed .malformed
    | some e => (stringBody rest).map (e :: ·)
  | c :: rest =>
    if c.toNat < 0x20 then .broken .malformed .malformed
    else (stringBody rest).map (c :: ·)
termination_by s => s.length
decreasing_by all_goals simp only [List.length_cons, List.length_drop]; omega

end ProfiledBuild.Json
