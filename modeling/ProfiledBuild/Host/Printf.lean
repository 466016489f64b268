import ProfiledBuild.Host.Quantities

/-! Escapes in texts, and formats with directives that take words. -/

namespace ProfiledBuild.Tools

def octal (limit : Nat) (s : Raw) : Char × Raw :=
  let ds := (s.take limit).takeWhile fun c => '0' ≤ c && c ≤ '7'
  (Char.ofNat (ds.foldl (fun n d => n * 8 + (d.toNat - 0x30)) 0 % 256), s.drop ds.length)

theorem length_octal_le (limit : Nat) (s : Raw) : (octal limit s).2.length ≤ s.length := by
  simp [octal]

def simpleEscapes : List (Char × Char) :=
  [('a', '\x07'), ('b', '\x08'), ('e', '\x1b'), ('f', '\x0c'), ('n', '\n'), ('r', '\r'),
    ('t', '\t'), ('v', '\x0b'), ('\\', '\\')]

def isOctal (c : Char) : Bool := '0' ≤ c && c ≤ '7'

def octalNumber (zero : Bool) (c : Char) (rest : Raw) : Char × Raw :=
  if zero && c = '0' && rest.head?.any isOctal then octal 3 rest else octal 3 (c :: rest)

theorem length_octalNumber_le (zero : Bool) (c : Char) (rest : Raw) :
    (octalNumber zero c rest).2.length ≤ rest.length + 1 := by
  unfold octalNumber
  split
  · exact Nat.le_succ_of_le (length_octal_le 3 rest)
  · exact length_octal_le 3 (c :: rest)

def escaped (zero : Bool) (c : Char) (rest : Raw) : Raw × Raw :=
  if isOctal c then
    let (d, rest) := octalNumber zero c rest
    ([d], rest)
  else
    match simpleEscapes.lookup c with
    | some e => ([e], rest)
    | none => (['\\', c], rest)

theorem length_escaped_le (zero : Bool) (c : Char) (rest : Raw) :
    (escaped zero c rest).2.length ≤ rest.length + 1 := by
  unfold escaped
  split
  · exact length_octalNumber_le zero c rest
  · split <;> simp

/-- Replaces escapes. An octal number has up to three digits, before which a zero may be left out
of account. `\c` ends the output, of which the second part tells. -/
def unescape (zero : Bool) : Raw → Raw × Bool
  | [] => ([], false)
  | ['\\'] => (['\\'], false)
  | '\\' :: c :: rest =>
    if c = 'c' then ([], true)
    else
      have := length_escaped_le zero c rest
      let (text, stop) := unescape zero (escaped zero c rest).2
      ((escaped zero c rest).1 ++ text, stop)
  | c :: rest =>
    let (text, stop) := unescape zero rest
    (c :: text, stop)
termination_by s => s.length
decreasing_by all_goals simp only [List.length_cons]; omega

/-- How a word is written: its flags, the least width, the precision, and the kind of value. -/
structure Layout where
  flags : List Char
  width : Nat
  precision : Option Nat
  kind : Char

/-- What has been written so far, what has been complained of, and the words that are left. -/
structure Printing where
  text : Raw
  complaints : List String
  failed : Bool
  words : List Raw

namespace Printing

def add (p : Printing) (text : Raw) : Printing := { p with text := p.text ++ text }

def complain (p : Printing) (why : String) : Printing :=
  { p with complaints := p.complaints ++ [why], failed := true }

def next (p : Printing) : Option Raw × Printing :=
  (p.words.head?, { p with words := p.words.tail })

end Printing

/-- A number in the notation of programs: octal after a zero, hexadecimal after `0x`. -/
def magnitude (s : Raw) : Option Nat × Raw :=
  match s with
  | '0' :: 'x' :: c :: rest =>
    if digitValue c < 16 then digitsIn 16 (c :: rest) else (some 0, 'x' :: c :: rest)
  | '0' :: 'X' :: c :: rest =>
    if digitValue c < 16 then digitsIn 16 (c :: rest) else (some 0, 'X' :: c :: rest)
  | '0' :: rest => digitsIn 8 ('0' :: rest)
  | s => digitsIn 10 s

def leadingNumber (s : Raw) : Option Int × Raw :=
  match s.dropWhile fun c => c = ' ' || ('\t' ≤ c && c ≤ '\r') with
  | '-' :: s =>
    let (n, rest) := magnitude s
    (n.map fun n => -(n : Int), rest)
  | '+' :: s =>
    let (n, rest) := magnitude s
    (n.map Int.ofNat, rest)
  | s =>
    let (n, rest) := magnitude s
    (n.map Int.ofNat, rest)

def largest : Int := 9223372036854775807

def wordSize : Int := 18446744073709551616

def wordNumber (signed : Bool) (w : Raw) (p : Printing) : Int × Printing :=
  match leadingNumber w with
  | (none, _) =>
    (0, if w = [] then p else p.complain (shown w ++ ": expected numeric value"))
  | (some n, rest) =>
    let outOfRange := p.complain (shown w ++ ": Numerical result out of range")
    let fitting := if rest = [] then p else p.complain (shown w ++ ": not completely converted")
    if signed then
      if largest < n then (largest, outOfRange)
      else if n < -largest - 1 then (-largest - 1, outOfRange)
      else (n, fitting)
    else if n < -wordSize ∨ wordSize ≤ n then (wordSize - 1, outOfRange)
    else (n, fitting)

/-- The number that the next word stands for: the code of a character after a quote, or a
number. -/
def nextNumber (signed : Bool) (p : Printing) : Int × Printing :=
  match p.next with
  | (some (q :: rest), p) =>
    if q = '\'' || q = '"' then ((rest.headD '\x00').toNat, p)
    else wordNumber signed (q :: rest) p
  | (_, p) => (0, p)

/-- The quantity that the next word stands for, as far as so many binary digits can keep it. -/
def nextQuantity (bits : Nat) (p : Printing) : Quantity × Printing :=
  match p.next with
  | (some (q :: rest), p) =>
    if q = '\'' || q = '"' then (.finite false (rest.headD '\x00').toNat 1, p)
    else
      let word := q :: rest
      match leadingQuantity word with
      | (none, _) => (.finite false 0 1, p.complain (shown word ++ ": expected numeric value"))
      | (some quantity, rest) =>
        (quantity.withBits bits,
          if rest = [] then p else p.complain (shown word ++ ": not completely converted"))
  | (_, p) => (.finite false 0 1, p)

namespace Layout

def has (l : Layout) (flag : Char) : Bool := l.flags.contains flag

def fill (l : Layout) (text : Raw) : Raw :=
  let blanks := List.replicate (l.width - text.length) ' '
  if l.has '-' then text ++ blanks else blanks ++ text

/-- Fills with zeros between the sign and the digits, if it is to be so. -/
def digits (l : Layout) (sign digits : Raw) : Raw :=
  let digits := match l.precision with
    | some n => List.replicate (n - digits.length) '0' ++ digits
    | none =>
      if l.has '0' && !l.has '-' then
        List.replicate (l.width - sign.length - digits.length) '0' ++ digits
      else digits
  l.fill (sign ++ digits)

def decimal (l : Layout) (n : Int) : Raw :=
  let sign := if n < 0 then ['-'] else if l.has '+' then ['+'] else if l.has ' ' then [' '] else []
  l.digits sign (toString n.natAbs).toList

/-- A word of the machine in some base; a mark of the base stands before it if asked for. -/
def unsigned (l : Layout) (base : Nat) (mark : Raw) (n : Int) : Raw :=
  let n := (n % wordSize).toNat
  l.digits (if l.has '#' && n ≠ 0 then mark else []) (Nat.toDigits base n)

def string (l : Layout) (text : Raw) : Raw :=
  l.fill (match l.precision with
    | some n => text.take n
    | none => text)

def real (l : Layout) (q : Quantity) : Raw :=
  let isUpper := l.kind.isUpper
  let letter := if isUpper then 'E' else 'e'
  let mark (negative : Bool) : Raw :=
    if negative then ['-'] else if l.has '+' then ['+'] else if l.has ' ' then [' '] else []
  let name (text : String) : Raw := if isUpper then text.toList.map Char.toUpper else text.toList
  match q with
  | .none => l.fill (mark false ++ name "nan")
  | .infinite negative => l.fill (mark negative ++ name "inf")
  | .finite negative n d =>
    let places := l.precision.getD 6
    let digits := match l.kind.toLower with
      | 'f' => Quantity.fixed places (l.has '#') n d
      | 'e' => Quantity.withPower places (l.has '#') letter n d
      | _ => Quantity.general places (l.has '#') letter n d
    { l with precision := none }.digits (mark negative) digits

/-- Writes the next word. A text with escapes may end the output, of which the second part
tells. -/
def print (bits : Nat) (l : Layout) (p : Printing) : Option (Printing × Bool) :=
  let number (signed : Bool) (text : Int → Raw) : Option (Printing × Bool) :=
    let (n, p) := nextNumber signed p
    some (p.add (text n), false)
  let (word, rest) := p.next
  if ['f', 'F', 'e', 'E', 'g', 'G'].contains l.kind then
    let (q, p) := nextQuantity bits p
    some (p.add (l.real q), false)
  else match l.kind with
  | 'd' => number true l.decimal
  | 'i' => number true l.decimal
  | 'u' => number false (l.unsigned 10 [])
  | 'o' => number false (l.unsigned 8 ['0'])
  | 'x' => number false (l.unsigned 16 ['0', 'x'])
  | 'X' => number false fun n => (l.unsigned 16 ['0', 'x'] n).map Char.toUpper
  | 'c' => some (rest.add (l.fill [(word.getD []).headD '\x00']), false)
  | 's' => some (rest.add (l.string (word.getD [])), false)
  | 'b' =>
    let (text, stop) := unescape true (word.getD [])
    some (rest.add (l.string text), stop)
  | _ => none

end Layout

/-- A width or precision: digits, or a star for the next word. -/
def readSize (s : Raw) (p : Printing) : Option Int × Raw × Printing :=
  match s with
  | '*' :: s =>
    let (n, p) := nextNumber true p
    (some n, s, p)
  | s =>
    let (n, rest) := digitsIn 10 s
    (n.map Int.ofNat, rest, p)

/-- The layout after a percent sign. A negative width means the other side. -/
def readLayout (s : Raw) (p : Printing) : Layout × Raw × Printing :=
  let flags := s.takeWhile fun c => c = '#' || c = '-' || c = '+' || c = ' ' || c = '0'
  let (width, s, p) := readSize (s.drop flags.length) p
  let width := width.getD 0
  let flags := if width < 0 then '-' :: flags else flags
  let (precision, s, p) := match s with
    | '.' :: s =>
      let (n, s, p) := readSize s p
      (some (n.getD 0).toNat, s, p)
    | s => (none, s, p)
  (⟨flags, width.natAbs, precision, s.headD '\x00'⟩, s.tail, p)

/-- Writes the format once. Some directives cannot be carried out, and some end the output. -/
def printOnce (bits : Nat) : Nat → Raw → Printing → Except Printing Printing
  | 0, _, p => .ok p
  | _, [], p => .ok p
  | fuel + 1, '%' :: '%' :: rest, p => printOnce bits fuel rest (p.add ['%'])
  | fuel + 1, '%' :: rest, p =>
    let (l, rest', p) := readLayout rest p
    if l.kind = '\x00' then .error (p.complain "missing format character")
    else match l.print bits p with
      | none =>
        let directive := '%' :: rest.take (rest.length - rest'.length)
        .error (p.complain (shown directive ++ ": invalid directive"))
      | some (p, true) => .error p
      | some (p, false) => printOnce bits fuel rest' p
  | fuel + 1, '\\' :: c :: rest, p =>
    let (text, rest) := escaped false c rest
    printOnce bits fuel rest (p.add text)
  | fuel + 1, c :: rest, p => printOnce bits fuel rest (p.add [c])

/-- The format is used again while words are left, if it uses any. -/
def printAll (bits : Nat) (format : Raw) : Nat → Printing → Except Printing Printing
  | 0, p => .ok p
  | fuel + 1, p => do
    let q ← printOnce bits (format.length + 1) format p
    if q.words = [] ∨ q.words.length = p.words.length then return q
    else printAll bits format fuel q

/-- Directives that cannot be carried out give another status than words that are no numbers. -/
def printf (label : String) (bits : Nat) (args : List Raw) (x : Context) : Ending × Context :=
  let finish (p : Printing) (status : Nat) : Ending × Context :=
    let x := p.complaints.foldl (fun x why => x.say (label ++ why)) x
    (.exited status, x.write 1 p.text)
  match if args.head? = some ['-', '-'] then args.tail else args with
  | [] => (.exited 2, x.say (label ++ "usage: printf format [arg ...]"))
  | ('-' :: c :: _) :: _ => (.exited 2, x.say (label ++ "Illegal option -" ++ shown [c]))
  | format :: words =>
    match printAll bits format (words.length + 1) ⟨[], [], false, words⟩ with
    | .ok p => finish p (if p.failed then 1 else 0)
    | .error p => finish p (if p.failed then 2 else 0)

end ProfiledBuild.Tools
