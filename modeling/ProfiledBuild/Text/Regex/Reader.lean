import ProfiledBuild.Text.Alphanumeric
import ProfiledBuild.Text.Blank
import ProfiledBuild.Text.Regex

/-! Reading regular expressions. The reader knows the letters of ASCII alone: what would need a
table of all scripts, such as word characters or letters in any case, can only be had after a flag
has restricted the expression to ASCII. Counted repetition is not read. -/

namespace ProfiledBuild.Regex

structure Mode where
  caseless : Bool
  lines : Bool
  dotAll : Bool
  swapped : Bool
  crlf : Bool
  spaced : Bool
  ascii : Bool
  deriving DecidableEq, Repr

namespace Mode

def start : Mode := ⟨false, false, false, false, false, false, false⟩

def set (m : Mode) (on : Bool) : Char → Option Mode
  | 'i' => some { m with caseless := on }
  | 'm' => some { m with lines := on }
  | 's' => some { m with dotAll := on }
  | 'U' => some { m with swapped := on }
  | 'R' => some { m with crlf := on }
  | 'x' => some { m with spaced := on }
  | 'u' => some { m with ascii := !on }
  | _ => none

/-- Flags up to the character that ends them. None is given twice, and a minus sign is followed by
one. -/
def read (m : Mode) (on : Bool) (seen : List Char) : List Char → Option (Mode × List Char)
  | [] => none
  | c :: s =>
    if c = ':' ∨ c = ')' then
      if seen.head? = some '-' then none else some (m, c :: s)
    else if seen.contains c then none
    else if c = '-' then read m false (c :: seen) s
    else do read (← m.set on c) on (c :: seen) s

def skip (m : Mode) (s : List Char) : List Char := if m.spaced then go false s else s
where
  go (remark : Bool) : List Char → List Char
    | [] => []
    | c :: s =>
      if remark then go (c ≠ '\n') s
      else if Blank.contains c then go false s
      else if c = '#' then go true s
      else c :: s

end Mode

def digit : CharSet := .ranges [('0', '9')]
def lower : CharSet := .ranges [('a', 'z')]
def upper : CharSet := .ranges [('A', 'Z')]
def alpha : CharSet := .union lower upper
def alnum : CharSet := .union alpha digit
def space : CharSet := .union (.ranges [('\t', '\r')]) (.single ' ')
def wordChar : CharSet := .union alnum (.single '_')

def named : List (String × CharSet) :=
  [("alnum", alnum), ("alpha", alpha), ("ascii", .ranges [('\x00', '\x7f')]),
    ("blank", .ofList ['\t', ' ']),
    ("cntrl", .union (.ranges [('\x00', '\x1f')]) (.single '\x7f')), ("digit", digit),
    ("graph", .ranges [('!', '~')]), ("lower", lower), ("print", .ranges [(' ', '~')]),
    ("punct", .ranges [('!', '/'), (':', '@'), ('[', '\x60'), ('\x7b', '~')]), ("space", space),
    ("upper", upper), ("word", wordChar),
    ("xdigit", .ranges [('0', '9'), ('A', 'F'), ('a', 'f')])]

/-- What a backslash and the characters after it stand for. A character given by two digits is an
octet where only ASCII counts. -/
inductive Escaped where
  | char (c : Char) (octet : Bool)
  | set (set : CharSet)
  | boundary (b : Boundary)

def hexValue? (c : Char) : Option Nat :=
  if '0' ≤ c ∧ c ≤ '9' then some (c.toNat - 0x30)
  else if 'a' ≤ c ∧ c ≤ 'f' then some (c.toNat - 0x57)
  else if 'A' ≤ c ∧ c ≤ 'F' then some (c.toNat - 0x37)
  else none

def hex (m : Mode) (n : Nat) : Nat → List Char → Option (Nat × List Char)
  | 0, s => some (n, s)
  | digits + 1, s =>
    match m.skip s with
    | [] => none
    | c :: s => do hex m (n * 16 + (← hexValue? c)) digits s

def scalar? (n : Nat) : Option Char :=
  let c := Char.ofNat n
  if c.toNat = n then some c else none

def hexChar (m : Mode) (digits : Nat) (s : List Char) : Option (Escaped × List Char) := do
  let (n, s) ← hex m 0 digits s
  return (.char (← scalar? n) (digits = 2), s)

/-- A letter of ASCII means something of its own after a backslash, or nothing. -/
def boundaries : List (Char × Boundary) := [('A', .textStart), ('z', .textEnd)]

def wordBoundaries : List (Char × Boundary) :=
  [('b', .word), ('B', .notWord), ('<', .wordStart), ('>', .wordEnd)]

def controls : List (Char × Char) :=
  [('a', '\x07'), ('f', '\x0c'), ('t', '\t'), ('n', '\n'), ('r', '\r'), ('v', '\x0b')]

def classes : List (Char × CharSet) := [('d', digit), ('s', space), ('w', wordChar)]

def escape (m : Mode) : List Char → Option (Escaped × List Char)
  | [] => none
  | 'x' :: s => hexChar m 2 s
  | 'u' :: s => hexChar m 4 s
  | 'U' :: s => hexChar m 8 s
  | c :: s =>
    match controls.lookup c, boundaries.lookup c with
    | some d, _ => some (.char d false, s)
    | _, some b => some (.boundary b, s)
    | none, none =>
      match (wordBoundaries.lookup c).filter fun _ => m.ascii with
      | some b => if s.head? = some '\x7b' then none else some (.boundary b, s)
      | none =>
        match (classes.lookup c).filter fun _ => m.ascii with
        | some set => some (.set set, s)
        | none =>
          if c.isAlphanum ∨ c = '<' ∨ c = '>' ∨ 0x80 ≤ c.toNat then none
          else some (.char c false, s)

def inOtherCase (c : Char) : Char := if c.isUpper then c.toLower else c.toUpper

def literal (m : Mode) (c : Char) (octet : Bool) : Option Regex :=
  if m.ascii && octet && 0x80 ≤ c.toNat then none
  else if !m.caseless then some (.chars (.single c))
  else if m.ascii then some (.chars (.ofList [c, inOtherCase c]))
  else none

def dot (m : Mode) : Option Regex :=
  if m.ascii then none
  else if m.dotAll then some any
  else some (.chars (.complement (.ofList (if m.crlf then ['\r', '\n'] else ['\n']))))

def letters : List Char := "ABCDEFGHIJKLMNOPQRSTUVWXYZabcdefghijklmnopqrstuvwxyz".toList

def folded (set : CharSet) : CharSet :=
  .union set (.ofList (letters.filter fun c => set.contains (inOtherCase c)))

/-- Where only ASCII counts, a set may have no other character. A set that has one has them all. -/
def Mode.isPast (m : Mode) (set : CharSet) : Bool := m.ascii && set.contains '\xff'

def bracketed (m : Mode) (negated : Bool) (set : CharSet) : Option CharSet :=
  if m.caseless && !m.ascii then none
  else
    let set := if m.caseless then folded set else set
    let set := if negated then .complement set else set
    if m.isPast set then none else some set

def namedClass : List Char → Option (CharSet × List Char)
  | ':' :: s =>
    let (negated, s) := match s with
      | '^' :: s => (true, s)
      | s => (false, s)
    match named.lookup (String.ofList (s.takeWhile (· ≠ ':'))), s.dropWhile (· ≠ ':') with
    | some set, ':' :: ']' :: rest => some (if negated then .complement set else set, rest)
    | _, _ => none
  | _ => none

def member (m : Mode) : List Char → Option (Escaped × List Char)
  | [] => none
  | '\\' :: s => escape m s
  | c :: s => some (.char c false, s)

def memberChar (m : Mode) : Escaped → Option Char
  | .char c _ => if m.ascii && 0x80 ≤ c.toNat then none else some c
  | _ => none

def memberSet (m : Mode) : Escaped → Option CharSet
  | .set set => some set
  | e => (memberChar m e).map .single

/-- A member, or a range from one character to another. A dash at the end of the brackets, or
before another dash, is no range. -/
def range (m : Mode) (s : List Char) : Option (CharSet × List Char) := do
  let (first, s) ← member m s
  match m.skip s with
  | '-' :: after =>
    match m.skip after with
    | ']' :: _ => return (← memberSet m first, '-' :: after)
    | '-' :: _ => return (← memberSet m first, '-' :: after)
    | s =>
      let (last, rest) ← member m s
      let low ← memberChar m first
      let high ← memberChar m last
      if low ≤ high then return (.ranges [(low, high)], rest) else none
  | s => return (← memberSet m first, s)

/-- What has been read between brackets since the last operation: the union of some members, with
how many there are and how deep brackets are nested in them. -/
structure Members where
  set : CharSet
  count : Nat
  inner : Nat

namespace Members

def nothing : Members := ⟨.none, 0, 0⟩

def add (ms : Members) (set : CharSet) (depth : Nat) : Members :=
  if ms.count = 0 then ⟨set, 1, depth⟩
  else ⟨.union ms.set set, ms.count + 1, max ms.inner depth⟩

def depth (ms : Members) : Nat := if ms.count < 2 then ms.inner else ms.inner + 1

end Members

structure Operand where
  operation : CharSet → CharSet → CharSet
  set : CharSet
  depth : Nat

/-- A set with its letters in both cases, if case does not count. -/
def Mode.fold (m : Mode) (set : CharSet) : CharSet := if m.caseless then folded set else set

def combine (m : Mode) (left : Option Operand) (ms : Members) : CharSet × Nat :=
  match left with
  | some left => (left.operation (m.fold left.set) (m.fold ms.set), max left.depth ms.depth + 1)
  | none => (ms.set, ms.depth)

def negation (m : Mode) (s : List Char) : Bool × List Char :=
  match m.skip s with
  | '^' :: s => (true, s)
  | s => (false, s)

/-- What is left of a bracket expression, as its set and how deep it is nested. At its front dashes
stand for themselves, and so does a closing bracket. -/
def bracket : Nat → Mode → Bool → Bool → Option Operand → Members → List Char →
    Option (CharSet × Nat × List Char)
  | 0, _, _, _, _, _, _ => none
  | fuel + 1, m, negated, front, left, right, s =>
    let next (operation : CharSet → CharSet → CharSet) (s : List Char) :=
      let (set, depth) := combine m left right
      bracket fuel m negated false (some ⟨operation, set, depth⟩) .nothing s
    match front, m.skip s with
    | _, [] => none
    | true, '-' :: s => bracket fuel m negated true left (right.add (.single '-') 0) s
    | front, ']' :: s =>
      if front && right.count = 0 then
        bracket fuel m negated false left (right.add (.single ']') 0) s
      else do
        let (set, depth) := combine m left right
        return (← bracketed m negated set, depth + 1, s)
    | _, '[' :: s =>
      match namedClass s with
      | some (set, s) =>
        if m.isPast set then none else bracket fuel m negated false left (right.add set 0) s
      | none => do
        let (inner, s) := negation m s
        let (set, depth, s) ← bracket fuel m inner true none .nothing s
        bracket fuel m negated false left (right.add set depth) s
    | _, '&' :: '&' :: s => next .inter s
    | _, '-' :: '-' :: s => next .minus s
    | _, '~' :: '~' :: s => next .difference s
    | _, s => do
      let (set, s) ← range m s
      bracket fuel m negated false left (right.add set 0) s

/-- An expression, how deep it is nested, and whether it can be repeated. -/
structure Part where
  regex : Regex
  depth : Nat
  repeatable : Bool

/-- A group as far as it has been read: whole branches, and the parts of the last one. Both are
kept from the last to the first. -/
structure Sofar where
  branches : List Part
  parts : List Part

def joined (parts : List Part) : Nat :=
  let deepest := parts.foldl (fun depth p => max depth p.depth) 0
  if parts.length < 2 then deepest else deepest + 1

namespace Sofar

def nothing : Sofar := ⟨[], []⟩

def push (g : Sofar) (r : Regex) (depth : Nat) : Sofar :=
  { g with parts := ⟨r, depth, true⟩ :: g.parts }

def pushFlags (g : Sofar) : Sofar := { g with parts := ⟨.empty, 0, false⟩ :: g.parts }

def branch (g : Sofar) : Part := ⟨concat (g.parts.reverse.map (·.regex)), joined g.parts, false⟩

def turn (g : Sofar) : Sofar := ⟨g.branch :: g.branches, []⟩

def close (g : Sofar) : Regex × Nat :=
  (g.branches.foldl (fun later p => .alt p.regex later) g.branch.regex,
    joined (g.branch :: g.branches))

def repeated (g : Sofar) (repetition : Regex → Regex) : Option Sofar :=
  match g.parts with
  | ⟨r, depth, true⟩ :: parts => some { g with parts := ⟨repetition r, depth + 1, true⟩ :: parts }
  | _ => none

end Sofar

inductive Opening where
  | flags (m : Mode)
  | group (m : Mode) (names : List (List Char))

def isNameStart (c : Char) : Bool := c = '_' || Alphanumeric.isLetter c

def isNamePart (c : Char) : Bool :=
  Alphanumeric.contains c || c = '_' || c = '.' || c = '[' || c = ']'

/-- The name of a group, up to its closing bracket. No two groups share one. -/
def groupName (m : Mode) (names : List (List Char)) (s : List Char) :
    Option (Opening × List Char) :=
  let name := s.takeWhile (· ≠ '>')
  match name, s.drop name.length with
  | c :: rest, '>' :: s =>
    if isNameStart c && rest.all isNamePart && !names.contains name then
      some (.group m (name :: names), s)
    else none
  | _, _ => none

def opening (m : Mode) (names : List (List Char)) (s : List Char) : Option (Opening × List Char) :=
  match m.skip s with
  | '?' :: 'P' :: '<' :: s => groupName m names s
  | '?' :: '<' :: s => groupName m names s
  | '?' :: ')' :: _ => none
  | '?' :: s => do
    match ← m.read true [] s with
    | (changed, ')' :: s) => return (.flags changed, s)
    | (changed, _ :: s) => return (.group changed names, s)
    | _ => none
  | s => some (.group m names, s)

def lineStart (m : Mode) : Regex := .boundary (if m.lines then .lineStart m.crlf else .textStart)

def lineEnd (m : Mode) : Regex := .boundary (if m.lines then .lineEnd m.crlf else .textEnd)

def part (m : Mode) : List Char → Option (Regex × List Char)
  | [] => none
  | '.' :: s => do return (← dot m, s)
  | '^' :: s => some (lineStart m, s)
  | '$' :: s => some (lineEnd m, s)
  | '\\' :: s => do
    let (e, s) ← escape m s
    match e with
    | .char c octet => return (← literal m c octet, s)
    | .set set => return (.chars set, s)
    | .boundary b => return (.boundary b, s)
  | c :: s => do return (← literal m c false, s)

def repetition? : Char → Option (Bool → Regex → Regex)
  | '*' => some star
  | '+' => some plus
  | '?' => some opt
  | _ => none

def greediness (m : Mode) : List Char → Bool × List Char
  | '?' :: s => (m.swapped, s)
  | s => (!m.swapped, s)

/-- What is left of a group, or of the whole expression, with how deep it is nested. The names of
all groups so far are handed on. -/
def group : Nat → Bool → Mode → List (List Char) → Sofar → List Char →
    Option ((Regex × Nat) × List (List Char) × List Char)
  | 0, _, _, _, _, _ => none
  | fuel + 1, inner, m, names, g, s =>
    match m.skip s with
    | [] => if inner then none else some (g.close, names, [])
    | '(' :: s => do
      match ← opening m names s with
      | (.flags m, s) => group fuel inner m names g.pushFlags s
      | (.group own names, s) =>
        let ((r, depth), names, s) ← group fuel true own names .nothing s
        group fuel inner m names (g.push r (depth + 1)) s
    | ')' :: s => if inner then some (g.close, names, s) else none
    | '|' :: s => group fuel inner m names g.turn s
    | '\x7b' :: _ => none
    | '[' :: s => do
      let (negated, s) := negation m s
      let (set, depth, s) ← bracket fuel m negated true none .nothing s
      group fuel inner m names (g.push (.chars set) depth) s
    | c :: s => do
      match repetition? c with
      | some repetition =>
        let (greedy, s) := greediness m s
        group fuel inner m names (← g.repeated (repetition greedy)) s
      | none =>
        let (r, s) ← part m (c :: s)
        group fuel inner m names (g.push r 0) s

/-- Groups, repetitions, brackets, branches and sequences may lie this deep inside each other. -/
def deepest : Nat := 250

def ofList? (s : List Char) : Option Regex := do
  let ((r, depth), _) ← group (s.length + 1) false .start [] .nothing s
  if depth ≤ deepest then return r else none

end ProfiledBuild.Regex
