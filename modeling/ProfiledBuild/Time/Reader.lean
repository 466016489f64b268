import ProfiledBuild.Text.Blank
import ProfiledBuild.Time.Timestamp

/-! Reading timestamps. The reader is lenient: numbers may have fewer digits than usual, blanks may
stand before numbers and separators, and the offset may be written in several ways. Each part is
checked when it is read, so the first fault in the text is the one reported. -/

namespace ProfiledBuild.Timestamp

inductive Fault where
  | tooShort
  | invalid
  | outOfRange
  | tooLong
  | impossible
  deriving DecidableEq, Repr

def Fault.message : Fault → String
  | .tooShort => "premature end of input"
  | .invalid => "input contains invalid characters"
  | .outOfRange => "input is out of range"
  | .tooLong => "trailing input"
  | .impossible => "no possible date and time matching input"

def isDigit (c : Char) : Bool := '0' ≤ c && c ≤ '9'

def digitValue (c : Char) : Nat := c.toNat - 0x30

def numeral (ds : List Char) : Nat := ds.foldl (fun n d => n * 10 + digitValue d) 0

/-- One or more digits. Without a bound on their number their value is bounded instead. -/
def number (width : Option Nat) (s : List Char) : Except Fault (Nat × List Char) :=
  let all := s.takeWhile isDigit
  let ds := match width with
    | some w => all.take w
    | none => all
  match s with
  | [] => .error .tooShort
  | _ =>
    if ds = [] then .error .invalid
    else if 9223372036854775808 ≤ numeral ds then .error .outOfRange
    else .ok (numeral ds, s.drop ds.length)

def yearPart (s : List Char) : Except Fault (Int × List Char) := do
  let (n, rest) ← match Blank.trimStart s with
    | '-' :: s => (fun (n, rest) => (-(n : Int), rest)) <$> number none s
    | '+' :: s => (fun (n, rest) => ((n : Int), rest)) <$> number none s
    | s => (fun (n, rest) => ((n : Int), rest)) <$> number (some 4) s
  if -2147483648 ≤ n ∧ n ≤ 2147483647 then .ok (n, rest) else .error .outOfRange

def part (low high : Nat) (s : List Char) : Except Fault (Nat × List Char) := do
  let (n, rest) ← number (some 2) (Blank.trimStart s)
  if low ≤ n ∧ n ≤ high then .ok (n, rest) else .error .outOfRange

def separator (c : Char) (s : List Char) : Except Fault (List Char) :=
  match Blank.trimStart s with
  | [] => .error .tooShort
  | d :: rest => if d = c then .ok rest else .error .invalid

def middle : List Char → Except Fault (List Char)
  | [] => .error .tooShort
  | c :: rest => if c = 'T' ∨ c = 't' ∨ c = ' ' then .ok rest else .error .invalid

/-- Nine fractional digits count, the others are dropped. -/
def fractionPart : List Char → Except Fault (Nat × List Char)
  | '.' :: s => do
    let (n, _) ← number (some 9) s
    let all := s.takeWhile isDigit
    .ok (n * Nat.pow 10 (9 - all.length), s.drop all.length)
  | s => .ok (0, s)

/-- Two digits of an offset. A single character beyond ASCII already fills their place. -/
def twoDigits : List Char → Except Fault (Char × Char × List Char)
  | [] => .error .tooShort
  | [c] => if c.toNat < 0x80 then .error .tooShort else .error .invalid
  | c :: d :: rest =>
    if isDigit c && isDigit d then .ok (c, d, rest) else .error .invalid

def offsetSize (s : List Char) : Except Fault (Nat × List Char) := do
  let (h, h', rest) ← twoDigits s
  let (m, m', rest) ← twoDigits (rest.dropWhile fun c => c = ':' || Blank.contains c)
  if '6' ≤ m then .error .outOfRange
  else .ok (numeral [h, h'] * 60 + numeral [m, m'], rest)

def offsetPart : List Char → Except Fault (Int × List Char)
  | [] => .error .tooShort
  | 'Z' :: rest => .ok (0, rest)
  | 'z' :: rest => .ok (0, rest)
  | u :: t :: c :: rest =>
    if (u = 'U' ∨ u = 'u') ∧ (t = 'T' ∨ t = 't') ∧ (c = 'C' ∨ c = 'c') then .ok (0, rest)
    else signed (u :: t :: c :: rest)
  | s => signed s
where
  signed : List Char → Except Fault (Int × List Char)
    | '+' :: s => (fun (n, rest) => ((n : Int), rest)) <$> offsetSize s
    | '-' :: s => (fun (n, rest) => (-(n : Int), rest)) <$> offsetSize s
    | '\u2212' :: s => (fun (n, rest) => (-(n : Int), rest)) <$> offsetSize s
    | _ => .error .invalid

def fields (s : List Char) : Except Fault (Civil × Int) := do
  let (year, s) ← yearPart s
  let (month, s) ← part 1 12 (← separator '-' s)
  let (day, s) ← part 1 31 (← separator '-' s)
  let (hour, s) ← part 0 23 (← middle s)
  let (minute, s) ← part 0 59 (← separator ':' s)
  let (second, s) ← part 0 60 (← separator ':' s)
  let (nanosecond, s) ← fractionPart s
  let (offset, s) ← offsetPart (Blank.trimStart s)
  if Blank.trimStart s ≠ [] then .error .tooLong
  else .ok (⟨year, month, day, hour, minute, second, nanosecond⟩, offset)

/-- Brings a date and time to universal time. An offset is shorter than a day. -/
def resolve (c : Civil) (offset : Int) : Except Fault Timestamp :=
  if ¬c.Valid ∨ 1440 ≤ offset.natAbs then .error .outOfRange
  else match ofCivil? (if offset = 0 then c else c.behind offset) with
    | some t => .ok t
    | none => .error .impossible

def parse (s : String) : Except Fault Timestamp := do
  let (c, offset) ← fields s.toList
  resolve c offset

end ProfiledBuild.Timestamp
