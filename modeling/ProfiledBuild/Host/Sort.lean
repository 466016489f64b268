import ProfiledBuild.Host.Texts

/-! Lines in order: by their octets, or by keys that are parts of them. -/

namespace ProfiledBuild.Tools

/-- A decimal number: its digits without the point, and how many of them stand after it. -/
structure Magnitude where
  digits : Int
  places : Nat

namespace Magnitude

/-- The number at the front of a text; 0 if there is none. -/
def ofText (text : Raw) : Magnitude :=
  let text := text.dropWhile Host.isBlank
  let (negative, text) := match text with
    | '-' :: rest => (true, rest)
    | text => (false, text)
  let whole := text.takeWhile Raw.isDigit
  let fraction := match text.drop whole.length with
    | '.' :: rest => rest.takeWhile Raw.isDigit
    | _ => []
  let digits : Int := (Raw.number? (whole ++ fraction)).getD 0
  ⟨if negative then -digits else digits, fraction.length⟩

def unit (text : Raw) : Nat :=
  let text := text.dropWhile fun c => Host.isBlank c || c = '-' || c = '.' || Raw.isDigit c
  match text with
  | c :: _ => ("KMGTPEZY".toList.idxOf c.toUpper + 1) % 9
  | [] => 0

def compare (a b : Magnitude) : Ordering :=
  Ord.compare (a.digits * (Nat.pow 10 b.places : Int)) (b.digits * (Nat.pow 10 a.places : Int))

end Magnitude

/-- How texts are compared: which of their characters count, as what, and whether the order is
turned round. -/
structure Comparison where
  letters : List Char
  deriving DecidableEq, Repr

namespace Comparison

def has (c : Comparison) (letter : Char) : Bool := c.letters.contains letter

def view (c : Comparison) (text : Raw) : Raw :=
  let text := if c.has 'b' then text.dropWhile Host.isBlank else text
  let text := if c.has 'd' then text.filter fun d => d.isAlphanum || Host.isBlank d else text
  if c.has 'f' then text.map Char.toUpper else text

def texts : Raw → Raw → Ordering
  | [], [] => .eq
  | [], _ => .lt
  | _, [] => .gt
  | a :: s, b :: t => (Ord.compare a.toNat b.toNat).then (texts s t)

/-- Numbers with units: the sign counts first, then the unit. -/
def sizes (a b : Raw) : Ordering :=
  let m := Magnitude.ofText a
  let n := Magnitude.ofText b
  let rank (m : Magnitude) (text : Raw) : Int :=
    let unit : Int := if m.digits = 0 then 0 else Magnitude.unit text + 1
    if m.digits < 0 then -unit else unit
  (Ord.compare (rank m a) (rank n b)).then (m.compare n)

/-- Stretches of digits count as numbers, and what is between them as text. -/
def versions : Nat → Raw → Raw → Ordering
  | 0, _, _ => .eq
  | fuel + 1, a, b =>
    let word (s : Raw) : Raw := s.takeWhile fun c => !Raw.isDigit c
    let digits (s : Raw) : Raw := s.takeWhile Raw.isDigit
    if a = [] ∧ b = [] then .eq
    else
      let (u, v) := (word a, word b)
      let (a, b) := (a.drop u.length, b.drop v.length)
      let (m, n) := (digits a, digits b)
      ((texts u v).then (Ord.compare ((Raw.number? m).getD 0) ((Raw.number? n).getD 0))).then
        (versions fuel (a.drop m.length) (b.drop n.length))

def compare (c : Comparison) (a b : Raw) : Ordering :=
  let order :=
    if c.has 'n' || c.has 'g' then (Magnitude.ofText a).compare (Magnitude.ofText b)
    else if c.has 'h' then sizes a b
    else if c.has 'V' then versions (a.length + b.length + 1) a b
    else texts (c.view a) (c.view b)
  if c.has 'r' then order.swap else order

end Comparison

/-- A place in a line: so many fields further on, and then so many characters. -/
structure FieldPlace where
  fields : Nat
  characters : Nat

structure Key where
  start : FieldPlace
  stop : Option FieldPlace
  comparison : Comparison

/-- What divides fields: a character, or the blanks before each of them. -/
abbrev Divider := Option Char

/-- The length of the first so many fields of a line. A character that divides fields counts if
something follows. -/
def fieldsLength (divider : Divider) (whole : Bool) : Nat → Raw → Nat
  | 0, _ => 0
  | n + 1, line =>
    match divider with
    | some d =>
      let field := line.takeWhile (· ≠ d)
      let rest := line.drop field.length
      let step := if rest = [] ∨ (n = 0 ∧ whole) then 0 else 1
      field.length + step + fieldsLength divider whole n (line.drop (field.length + step))
    | none =>
      let blanks := line.takeWhile Host.isBlank
      let field := (line.drop blanks.length).takeWhile (!Host.isBlank ·)
      let length := blanks.length + field.length
      length + fieldsLength divider whole n (line.drop length)

def Key.part (divider : Divider) (k : Key) (line : Raw) : Raw :=
  let skip (from_ : Nat) : Nat :=
    if k.comparison.has 'b' then ((line.drop from_).takeWhile Host.isBlank).length else 0
  let first := fieldsLength divider false k.start.fields line
  let first := first + skip first + k.start.characters
  let last := match k.stop with
    | none => line.length
    | some stop =>
      if stop.characters = 0 then fieldsLength divider true (stop.fields + 1) line
      else
        let last := fieldsLength divider false stop.fields line
        last + skip last + stop.characters
  (line.take last).drop first

def comparisonLetters : List Char := "bdfghnrV".toList

/-- A place in a key, with the letters behind it. Fields and characters are counted from 1; the end
of a key may be the end of a field. -/
def fieldPlace? (isEnd : Bool) (w : Raw) : Option (FieldPlace × List Char) := do
  let digits := w.takeWhile Raw.isDigit
  let field ← Raw.number? digits
  let rest := w.drop digits.length
  let (character, letters) ← match rest with
    | '.' :: rest =>
      let digits := rest.takeWhile Raw.isDigit
      (Raw.number? digits).map fun n => (n, rest.drop digits.length)
    | rest => some (if isEnd then 0 else 1, rest)
  if field = 0 || (!isEnd && character = 0) || !letters.all comparisonLetters.contains then none
  else return (⟨field - 1, if isEnd then character else character - 1⟩, letters)

def Key.ofWord? (general : Comparison) (w : Raw) : Option Key := do
  match Raw.splitOn ',' w with
  | [first] =>
    let (start, letters) ← fieldPlace? false first
    return ⟨start, none, if letters = [] then general else ⟨letters⟩⟩
  | [first, second] =>
    let (start, letters) ← fieldPlace? false first
    let (stop, more) ← fieldPlace? true second
    let letters := letters ++ more
    return ⟨start, some stop, if letters = [] then general else ⟨letters⟩⟩
  | _ => none

/-- How whole lines are put in order. Lines whose keys are equal are in the order of their octets,
if nothing else is said. -/
structure LineOrder where
  keys : List Key
  divider : Divider
  general : Comparison
  stable : Bool

namespace LineOrder

def byKeys (o : LineOrder) (a b : Raw) : Ordering :=
  if o.keys = [] then o.general.compare a b
  else o.keys.foldl
    (fun order k => order.then
      (k.comparison.compare (k.part o.divider a) (k.part o.divider b))) .eq

def compare (o : LineOrder) (a b : Raw) : Ordering :=
  let rest := Comparison.texts a b
  (o.byKeys a b).then
    (if o.stable then .eq else if o.general.has 'r' then rest.swap else rest)

/-- Of lines with equal keys only the first one. -/
def distinct (o : LineOrder) : List Raw → List Raw
  | a :: b :: rest =>
    if o.byKeys a b = .eq then o.distinct (a :: rest) else a :: o.distinct (b :: rest)
  | lines => lines
termination_by lines => lines.length

end LineOrder

/-- The order that the options of `sort` ask for, or the key that is none. -/
def LineOrder.ofChosen (chosen : Chosen) : Except Raw LineOrder := do
  let letters := (chosen.options.map (·.1)).filter comparisonLetters.contains
  let keys ← (chosen.options.filter (·.1 = 'k')).mapM fun (_, w) =>
    match Key.ofWord? ⟨letters⟩ w with
    | some k => .ok k
    | none => .error w
  let divider := match chosen.word? 't' with
    | some [c] => some c
    | some ['\\', '0'] => some '\x00'
    | _ => none
  return ⟨keys, divider, ⟨letters⟩, chosen.has 's' || chosen.has 'u'⟩

/-- The first line that is not where it belongs, with its number. -/
def firstDisorder (o : LineOrder) (unique : Bool) : Nat → List Raw → Option (Nat × Raw)
  | n, a :: b :: rest =>
    let order := if unique then o.byKeys a b else o.compare a b
    if order = .gt || (unique && order = .eq) then some (n + 1, b)
    else firstDisorder o unique (n + 1) (b :: rest)
  | _, _ => none

def sortNames : List (String × Char) :=
  [("reverse", 'r'), ("unique", 'u'), ("numeric-sort", 'n'), ("key", 'k'),
    ("field-separator", 't'), ("ignore-case", 'f'), ("stable", 's'), ("output", 'o'),
    ("check", 'c'), ("version-sort", 'V'), ("human-numeric-sort", 'h'),
    ("general-numeric-sort", 'g'), ("ignore-leading-blanks", 'b'), ("dictionary-order", 'd'),
    ("zero-terminated", 'z')]

def sort : Tool := fun args x =>
  let options : Options := ⟨"bdfghnrVsucCzim".toList, ['k', 't', 'o', 'S', 'T'], sortNames⟩
  match options.read args with
  | .error e => misusedWith 2 "sort" e.message x
  | .ok chosen =>
    match LineOrder.ofChosen chosen with
    | .error w => (.exited 2, x.say ("sort: invalid field specification " ++ quoted w))
    | .ok order =>
      let (found, x) := texts chosen.operands x
      let failed := found.filterMap fun (name, text) =>
        match text with
        | .error why =>
          let verb := if why = "Is a directory" then "read failed: " else "cannot read: "
          some ("sort: " ++ verb ++ shown name ++ ": " ++ why)
        | .ok _ => none
      match failed with
      | why :: _ => (.exited 2, x.say why)
      | [] =>
        let lineEnd := if chosen.has 'z' then '\x00' else '\n'
        let linesOf (text : Raw) : List Raw :=
          let pieces := Raw.splitOn lineEnd text
          if pieces.getLast? = some [] then pieces.dropLast else pieces
        let lines := (found.filterMap fun (_, text) => text.toOption.map linesOf).flatten
        if chosen.has 'c' || chosen.has 'C' then
          match firstDisorder order (chosen.has 'u') 1 lines with
          | none => (.exited 0, x)
          | some (n, line) =>
            let name := (named chosen.operands).headD []
            (.exited 1, if chosen.has 'C' then x
              else x.say ("sort: " ++ shown name ++ ":" ++ toString n ++ ": disorder: " ++ shown line))
        else
          let ordered := lines.mergeSort fun a b => order.compare a b ≠ .gt
          let ordered := if chosen.has 'u' then order.distinct ordered else ordered
          let text := ordered.flatMap (· ++ [lineEnd])
          match chosen.word? 'o' with
          | none => (.exited 0, x.write 1 text)
          | some path =>
            match x.host.newPlace path with
            | .ok place => (.exited 0, x.withHost (x.host.writeFile place text))
            | .error e => (.exited 2, x.say ("sort: open failed: " ++ shown path ++ ": " ++ missingFile e))

end ProfiledBuild.Tools
