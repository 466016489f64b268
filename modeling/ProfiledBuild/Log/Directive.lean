import ProfiledBuild.Log.Record
import ProfiledBuild.Text.Raw
import ProfiledBuild.Text.Regex.Reader

/-! Directives of log filters. A directive sets the most verbose level that is let through where it
applies: for a target, inside a span, or where a field is given. -/

namespace ProfiledBuild.Log

/-- Whether a level or anything more severe is let through; nothing passes `none`. -/
abbrev Threshold := Option Level

namespace Threshold

def admits (t : Threshold) (level : Level) : Bool :=
  match t with
  | none => false
  | some least => least.severity ≤ level.severity

def max (a b : Threshold) : Threshold :=
  match a, b with
  | none, b => b
  | a, none => a
  | some l, some k => some (if k.severity < l.severity then k else l)

def greatest (ts : List Threshold) : Threshold := ts.foldl max none

def named : List (String × Threshold) :=
  ("off", none) :: Level.all.map fun l => (l.name.toLower, some l)

/-- By number, from nothing to everything. -/
def numbered : List Threshold :=
  [none, some .error, some .warn, some .info, some .debug, some .trace]

def number? (name : String) : Option Nat :=
  let digits := match name.toList with
    | '+' :: rest => rest
    | rest => rest
  if digits ≠ [] ∧ digits.all Char.isDigit then
    some (digits.foldl (fun n d => n * 10 + (d.toNat - 0x30)) 0)
  else none

def ofName? (name : String) : Option Threshold :=
  match number? name with
  | some n => numbered[n]?
  | none => named.lookup name.toLower

end Threshold

/-- What the value of a field is to be: a truth value or a number as it is written, or a text that
an expression matches up to its end. -/
inductive Wanted where
  | literal (text : String)
  | pattern (text : String) (regex : Regex)
  deriving DecidableEq, Repr

namespace Wanted

def isSign (c : Char) : Bool := c = '+' || c = '-'

/-- Digits, with a point among them or not, and perhaps an exponent. -/
def isDecimal (s : List Char) : Bool :=
  let whole := s.takeWhile Char.isDigit
  let rest := s.drop whole.length
  let (fraction, rest) := match rest with
    | '.' :: rest => (rest.takeWhile Char.isDigit, rest.dropWhile Char.isDigit)
    | rest => ([], rest)
  (whole ≠ [] || fraction ≠ []) &&
    match rest with
    | [] => true
    | e :: rest =>
      let digits := match rest with
        | c :: ds => if isSign c then ds else c :: ds
        | [] => []
      (e = 'e' || e = 'E') && digits ≠ [] && digits.all Char.isDigit

/-- A number in decimal notation, an infinity, or what is no number by name. -/
def isNumber (s : List Char) : Bool :=
  let magnitude := match s with
    | c :: rest => if isSign c then rest else c :: rest
    | [] => []
  ["inf", "infinity", "nan"].contains (String.ofList magnitude).toLower || isDecimal magnitude

def ofText? (text : String) : Option Wanted :=
  if text = "true" ∨ text = "false" ∨ isNumber text.toList then some (.literal text)
  else (Regex.ofList? text.toList).map (.pattern text)

/-- A text is never a truth value or a number. -/
def isMet : Wanted → Value → Bool
  | .pattern _ regex, .shown s => regex.matchesToEnd s.toList
  | .pattern _ regex, .plain s => regex.matchesToEnd s.toList
  | .pattern .., _ => false
  | .literal _, .shown _ => false
  | .literal _, .plain _ => false
  | .literal text, value => text = value.text

end Wanted

/-- A field that is to be there, with any value or with a certain one. -/
structure FieldPattern where
  name : String
  wanted : Option Wanted
  deriving DecidableEq, Repr

/-- A name, and perhaps a value between the first equals sign and the next one. -/
def FieldPattern.ofText? (text : String) : Option FieldPattern :=
  match Raw.splitOn '=' text.toList with
  | name :: value :: _ => do
    return ⟨String.ofList name, some (← Wanted.ofText? (String.ofList value))⟩
  | _ => if text = "" then none else some ⟨text, none⟩

/-- Where the directive applies is the key; the span goes by its name. -/
structure DirectiveKey where
  target : Option String
  span : Option String
  field : Option FieldPattern
  deriving DecidableEq, Repr

structure Directive extends DirectiveKey where
  threshold : Threshold
  deriving DecidableEq, Repr

namespace Directive

def everywhere (t : Threshold) : Directive := ⟨⟨none, none, none⟩, t⟩

/-- An octet of the text of a directive. The text is read without the blanks around it, but what
it names is taken from the text with them, at the same offsets: what is seen and what is taken can
differ, and at the end octets are taken that are not seen. -/
structure Mark where
  seen : Option Char
  taken : Char

def Mark.align : Raw → Raw → List Mark
  | _, [] => []
  | [], t :: taken => ⟨none, t⟩ :: align [] taken
  | s :: seen, t :: taken => ⟨some s, t⟩ :: align seen taken

def taken (marks : List Mark) : Option String := Utf8.decode? (Raw.toOctets (marks.map (·.taken)))

def cut (delimiters : List Char) (marks : List Mark) : List Mark × Option Char × List Mark :=
  let before := marks.takeWhile fun m => !m.seen.any delimiters.contains
  match marks.drop before.length with
  | [] => (before, none, [])
  | m :: rest => (before, m.seen, rest)

/-- A level after an equals sign; without one everything is let through. -/
def withLevel (key : DirectiveKey) (marks : List Mark) : Option Directive := do
  let name ← taken marks
  if name = "" then return ⟨key, some .trace⟩ else return ⟨key, ← Threshold.ofName? name⟩

/-- What follows the brackets of a span: nothing, or a level. -/
def afterSpan (key : DirectiveKey) : List Mark → Option Directive
  | [] => some ⟨key, some .trace⟩
  | m :: rest =>
    match m.seen with
    | none => some ⟨key, some .trace⟩
    | some '=' => withLevel key rest
    | some _ => none

/-- What follows an opening bracket: the name of a span, which may be empty, or a field in braces
with or without a name before it. -/
def spanPart (target : Option String) (marks : List Mark) : Option Directive :=
  match cut [']', '\x7b'] marks with
  | (name, some ']', rest) => do afterSpan ⟨target, some (← taken name), none⟩ rest
  | (name, some _, rest) => do
    let name ← taken name
    match cut ['\x7d'] rest with
    | (field, some _, bracket :: rest) => do
      let field ← FieldPattern.ofText? (← taken field)
      if bracket.seen = some ']' then
        afterSpan ⟨target, if name = "" then none else some name, some field⟩ rest
      else none
    | _ => none
  | _ => none

def isStart (c : Char) : Bool := Alphanumeric.contains c || c = '-' || c = ':' || c = '_'

/-- A level alone, or a target, a span or both with or without a level. -/
def ofText? (text : String) : Option Directive :=
  let seen := Blank.trim text.toList
  let marks := Mark.align (Raw.ofString (String.ofList seen)) (Raw.ofString text)
  match seen with
  | [] => none
  | '[' :: _ => spanPart none (marks.drop 1)
  | c :: _ =>
    if !isStart c then none
    else match cut ['=', '['] marks with
      | (all, none, _) => do
        let name ← taken all
        match Threshold.ofName? name with
        | some t => return everywhere t
        | none => return ⟨⟨some name, none, none⟩, some .trace⟩
      | (target, some '[', rest) => do spanPart (some (← taken target)) rest
      | (target, some _, rest) => do withLevel ⟨some (← taken target), none, none⟩ rest

def isDynamic (d : Directive) : Bool := d.span.isSome || d.field.isSome

def isStatic (d : Directive) : Bool := d.span.isNone && d.field.all (·.wanted.isNone)

def matchesTarget (d : Directive) (target : String) : Bool := d.target.all (target.startsWith ·)

def hasField (d : Directive) (names : List String) : Bool :=
  d.field.all fun f => names.contains f.name

def caresFor (d : Directive) (s : Span) : Bool :=
  d.matchesTarget s.target && d.span.all (· = s.name) && d.hasField (s.fields.map (·.1))

def isMetBy (d : Directive) (s : Span) : Bool :=
  d.field.all fun f => f.wanted.all fun w => (s.fields.lookup f.name).any w.isMet

def rank (d : Directive) : List Nat :=
  [(d.target.map (·.utf8ByteSize + 1)).getD 0, if d.field.isSome then 1 else 0]

def texts (d : Directive) : List String := d.target.toList ++ d.field.toList.map (·.name)

/-- Directives with longer targets are more specific, then those that ask for a field, then those
whose texts come later in order. -/
def isBelow (d e : Directive) : Bool :=
  d.rank < e.rank || (d.rank = e.rank && d.texts < e.texts)

end Directive

end ProfiledBuild.Log
