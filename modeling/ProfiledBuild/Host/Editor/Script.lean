import ProfiledBuild.Text.LinePattern.Reader

/-! Scripts of the stream editor: which lines are meant, and what is done with them. -/

namespace ProfiledBuild.Editor

/-- A line by its number, the last one, every so many lines, or those where a pattern is found. No
pattern at all stands for the one that was used last. -/
inductive Address where
  | line (n : Nat)
  | last
  | every (first step : Nat)
  | found (p : Option LinePattern)
  deriving DecidableEq, Repr

/-- How far lines reach from the first one: to an address, for so many lines, or to a multiple. -/
inductive Reach where
  | to (a : Address)
  | lines (n : Nat)
  | multiple (n : Nat)
  deriving DecidableEq, Repr

structure Selector where
  first : Option Address
  reach : Option Reach
  negated : Bool
  deriving DecidableEq, Repr

/-- Parts of a replacement. Group 0 is the match as a whole; a turn changes the case of what
follows. -/
inductive Piece where
  | text (text : Raw)
  | group (n : Nat)
  | turn (letter : Char)
  deriving DecidableEq, Repr

structure Substitution where
  pattern : Option LinePattern
  pieces : List Piece
  isGlobal : Bool
  nth : Nat
  prints : Bool
  file : Option Raw
  deriving DecidableEq, Repr

inductive Action where
  | block (length : Nat)
  | mark (label : Raw)
  | jump (label : Raw)
  | jumpIfChanged (label : Raw)
  | jumpUnlessChanged (label : Raw)
  | substitute (s : Substitution)
  | exchange (table : List (Char × Char))
  | insert (text : Raw)
  | append (text : Raw)
  | change (text : Raw)
  | delete
  | deleteLine
  | print
  | printLine
  | next
  | nextToo
  | get
  | getToo
  | hold
  | holdToo
  | swap
  | number
  | list
  | clear
  | quit (status : Nat)
  | quitSilently (status : Nat)
  | read (file : Raw)
  | write (file : Raw)
  deriving DecidableEq, Repr

structure Instruction where
  selector : Selector
  action : Action
  deriving DecidableEq, Repr

def skipBlanks (s : Raw) : Raw := s.dropWhile fun c => c = ' ' || c = '\t'

/-- A text up to a sign that ends it. A backslash takes the sign its meaning; a line end may be
spelled with one. -/
def upTo (sign : Char) (spelled : Bool) : Raw → Option (Raw × Raw)
  | [] => none
  | '\\' :: c :: rest => do
    let (inside, rest) ← upTo sign spelled rest
    return (if c = sign then c :: inside
      else if spelled && c = 'n' then '\n' :: inside
      else '\\' :: c :: inside, rest)
  | c :: rest =>
    if c = sign then some ([], rest)
    else do
      let (inside, rest) ← upTo sign spelled rest
      return (c :: inside, rest)

def escapeOf? (c : Char) : Option Char :=
  [('t', '\t'), ('f', '\x0c'), ('v', '\x0b'), ('a', '\x07'), ('r', '\r'), ('n', '\n')].lookup c

/-- Replaces escapes, which may stand in a pattern. -/
def withEscapes : Raw → Raw
  | '\\' :: c :: rest =>
    match escapeOf? c with
    | some e => e :: withEscapes rest
    | none => '\\' :: c :: withEscapes rest
  | c :: rest => c :: withEscapes rest
  | [] => []

def patternOf? (extended : Bool) (flags : Raw) (text : Raw) :
    Except String (Option LinePattern × Nat) := do
  if text = [] then return (none, 9)
  let (p, groups) ← LinePattern.ofText extended (withEscapes text)
  let p := if flags.contains 'I' || flags.contains 'i' then p.withoutCase else p
  let p := if flags.contains 'M' || flags.contains 'm' then p.byLines else p
  return (some p, groups)

def digits (s : Raw) : Nat × Raw :=
  let ds := s.takeWhile Raw.isDigit
  ((Raw.number? ds).getD 0, s.drop ds.length)

/-- An address at the front of a script, if there is one. -/
def address (extended : Bool) (s : Raw) : Except String (Option Address × Raw) := do
  let found (sign : Char) (rest : Raw) : Except String (Option Address × Raw) := do
    match upTo sign true rest with
    | none => throw "unterminated address regex"
    | some (text, rest) =>
      let flags := rest.takeWhile fun c => c = 'I' || c = 'M'
      let (p, _) ← patternOf? extended flags text
      return (some (.found p), rest.drop flags.length)
  match s with
  | '$' :: rest => return (some .last, rest)
  | '/' :: rest => found '/' rest
  | '\\' :: sign :: rest => found sign rest
  | c :: _ =>
    if !Raw.isDigit c then return (none, s)
    else
      let (n, rest) := digits s
      match skipBlanks rest with
      | '~' :: rest =>
        let (step, rest) := digits rest
        return (some (.every n step), rest)
      | rest => return (some (.line n), rest)
  | [] => return (none, [])

def selector (extended : Bool) (s : Raw) : Except String (Selector × Raw) := do
  let (first, rest) ← address extended s
  let rest := if first.isSome then skipBlanks rest else rest
  let (reach, rest) ← match first, rest with
    | some _, ',' :: rest =>
      match skipBlanks rest with
      | '+' :: rest =>
        let (n, rest) := digits rest
        pure (some (Reach.lines n), rest)
      | '~' :: rest =>
        let (n, rest) := digits rest
        pure (some (Reach.multiple n), rest)
      | rest =>
        match ← address extended rest with
        | (some a, rest) => pure (some (Reach.to a), rest)
        | (none, _) => throw "unexpected ','"
    | _, rest => pure (none, rest)
  match skipBlanks rest with
  | '!' :: rest => return (⟨first, reach, true⟩, rest.dropWhile fun c => c = '!' || c = ' ')
  | rest => return (⟨first, reach, false⟩, rest)

def consPiece (c : Char) : List Piece → List Piece
  | .text t :: rest => .text (c :: t) :: rest
  | rest => .text [c] :: rest

def pieces : Raw → List Piece
  | [] => []
  | '&' :: rest => .group 0 :: pieces rest
  | '\\' :: c :: rest =>
    if Raw.isDigit c then .group (c.toNat - 0x30) :: pieces rest
    else if "ULElu".toList.contains c then .turn c :: pieces rest
    else consPiece ((escapeOf? c).getD c) (pieces rest)
  | c :: rest => consPiece c (pieces rest)

/-- A text up to a sign that ends it, in which the other escapes are kept. -/
def replacementUpTo (sign : Char) : Raw → Option (Raw × Raw)
  | [] => none
  | '\\' :: c :: rest => do
    let (inside, rest) ← replacementUpTo sign rest
    return (if c = sign && c ≠ '&' && !Raw.isDigit c then c :: inside
      else '\\' :: c :: inside, rest)
  | c :: rest =>
    if c = sign then some ([], rest)
    else do
      let (inside, rest) ← replacementUpTo sign rest
      return (c :: inside, rest)

def fileName (s : Raw) : Raw × Raw :=
  let name := (skipBlanks s).takeWhile (· ≠ '\n')
  (name, (skipBlanks s).drop name.length)

def flagged (s : Substitution) : Nat → Raw → Except String (Substitution × Raw × Raw)
  | 0, rest => .ok (s, [], rest)
  | fuel + 1, rest => do
    match rest with
    | 'g' :: rest => flagged { s with isGlobal := true } fuel rest
    | 'p' :: rest => flagged { s with prints := true } fuel rest
    | 'w' :: rest =>
      let (name, rest) := fileName rest
      return ({ s with file := some name }, [], rest)
    | c :: after =>
      if c = 'i' || c = 'I' || c = 'm' || c = 'M' then
        let (s, flags, rest) ← flagged s fuel after
        return (s, c :: flags, rest)
      else if Raw.isDigit c then
        let (n, rest) := digits rest
        if n = 0 then throw "number option to 's' command may not be zero"
        else flagged { s with nth := n } fuel rest
      else return (s, [], rest)
    | [] => return (s, [], [])

def substitution (extended : Bool) (s : Raw) : Except String (Action × Raw) := do
  match s with
  | [] => throw "unterminated 's' command"
  | sign :: rest =>
    match upTo sign true rest with
    | none => throw "unterminated 's' command"
    | some (text, rest) =>
      match replacementUpTo sign rest with
      | none => throw "unterminated 's' command"
      | some (replacement, rest) =>
        let found := pieces replacement
        let (s, flags, rest) ← flagged ⟨none, found, false, 1, false, none⟩ (rest.length + 1) rest
        let (p, groups) ← patternOf? extended flags text
        match found.find? fun p => p matches .group _ && !isWithin groups p with
        | some (.group n) =>
          throw ("invalid reference \\" ++ toString n ++ " on 's' command's RHS")
        | _ => return (.substitute { s with pattern := p }, rest)
where
  isWithin (groups : Nat) : Piece → Bool
    | .group n => n ≤ groups
    | _ => true

/-- The characters of an exchange, in which a backslash and a line end may be spelled. -/
def plainCharacters : Raw → Raw
  | '\\' :: c :: rest => (escapeOf? c).getD c :: plainCharacters rest
  | c :: rest => c :: plainCharacters rest
  | [] => []

def exchange (s : Raw) : Except String (Action × Raw) := do
  match s with
  | [] => throw "unterminated 'y' command"
  | sign :: rest =>
    match upTo sign false rest with
    | none => throw "unterminated 'y' command"
    | some (keys, rest) =>
      match upTo sign false rest with
      | none => throw "unterminated 'y' command"
      | some (values, rest) =>
        let (keys, values) := (plainCharacters keys, plainCharacters values)
        if keys.length = values.length then return (.exchange (keys.zip values), rest)
        else throw "strings for 'y' command are different lengths"

/-- Lines of text for a command. A backslash keeps a line end, and otherwise goes away. -/
def textLines : Raw → Raw × Raw
  | [] => ([], [])
  | '\n' :: rest => ([], '\n' :: rest)
  | '\\' :: c :: rest =>
    let (text, rest) := textLines rest
    (c :: text, rest)
  | c :: rest =>
    let (text, rest) := textLines rest
    (c :: text, rest)

def commandText (s : Raw) : Except String (Raw × Raw) :=
  let (text, rest) := match skipBlanks s with
    | '\\' :: rest =>
      match skipBlanks rest with
      | '\n' :: rest => textLines rest
      | rest => textLines rest
    | rest => textLines rest
  if text = [] then .error "expected \\ after 'a', 'c' or 'i'" else .ok (text ++ ['\n'], rest)

def label (s : Raw) : Raw × Raw :=
  let s := skipBlanks s
  let name := s.takeWhile fun c => c ≠ '\n' && c ≠ ';' && c ≠ ' '
  (name, s.drop name.length)

def lettered : List (Char × Action) :=
  [('d', .delete), ('D', .deleteLine), ('p', .print), ('P', .printLine), ('n', .next),
    ('N', .nextToo), ('g', .get), ('G', .getToo), ('h', .hold), ('H', .holdToo), ('x', .swap),
    ('=', .number), ('l', .list), ('z', .clear)]

def action (extended : Bool) (s : Raw) : Except String (Action × Raw) := do
  match s with
  | [] => throw "missing command"
  | c :: rest =>
    match lettered.lookup c with
    | some a => return (a, rest)
    | none =>
      match c with
      | 's' => substitution extended rest
      | 'y' => exchange rest
      | 'a' => return ((.append (← commandText rest).1), (← commandText rest).2)
      | 'i' => return ((.insert (← commandText rest).1), (← commandText rest).2)
      | 'c' => return ((.change (← commandText rest).1), (← commandText rest).2)
      | ':' =>
        if (label rest).1 = [] then throw "\":\" lacks a label"
        else return (.mark (label rest).1, (label rest).2)
      | 'b' => return (.jump (label rest).1, (label rest).2)
      | 't' => return (.jumpIfChanged (label rest).1, (label rest).2)
      | 'T' => return (.jumpUnlessChanged (label rest).1, (label rest).2)
      | 'q' => return (.quit (digits (skipBlanks rest)).1, (digits (skipBlanks rest)).2)
      | 'Q' => return (.quitSilently (digits (skipBlanks rest)).1, (digits (skipBlanks rest)).2)
      | 'r' => return (.read (fileName rest).1, (fileName rest).2)
      | 'w' => return (.write (fileName rest).1, (fileName rest).2)
      | c => throw ("unknown command: '" ++ c.toString ++ "'")

def instructions (extended inner : Bool) : Nat → Raw → Except String (List Instruction × Raw)
  | 0, _ => .error "script too long"
  | fuel + 1, s => do
    match s.dropWhile fun c => c = ' ' || c = '\t' || c = '\n' || c = ';' with
    | [] => if inner then throw "unmatched '\x7b'" else return ([], [])
    | '#' :: rest => instructions extended inner fuel (rest.dropWhile (· ≠ '\n'))
    | '\x7d' :: rest => if inner then return ([], rest) else throw "unexpected '\x7d'"
    | s =>
      let (chosen, rest) ← selector extended s
      match rest with
      | '\x7b' :: rest =>
        let (inside, rest) ← instructions extended true fuel rest
        let (more, rest) ← instructions extended inner fuel rest
        return (⟨chosen, .block inside.length⟩ :: inside ++ more, rest)
      | rest =>
        let (a, rest) ← action extended rest
        match skipBlanks rest with
        | c :: _ =>
          if c = '\n' || c = ';' || c = '#' || c = '\x7d' then
            let (more, rest) ← instructions extended inner fuel rest
            return (⟨chosen, a⟩ :: more, rest)
          else throw (if a matches .substitute _ then "unknown option to 's'"
            else "extra characters after command")
        | [] =>
          let (more, rest) ← instructions extended inner fuel []
          return (⟨chosen, a⟩ :: more, rest)

def ofText (extended : Bool) (s : Raw) : Except String (List Instruction) := do
  let (found, _) ← instructions extended false (s.length + 1) s
  let labels := found.filterMap fun i =>
    match i.action with
    | .mark l => some l
    | _ => none
  let missing := found.findSome? fun i =>
    match i.action with
    | .jump l => if l = [] || labels.contains l then none else some l
    | .jumpIfChanged l => if l = [] || labels.contains l then none else some l
    | .jumpUnlessChanged l => if l = [] || labels.contains l then none else some l
    | _ => none
  match missing with
  | some l => throw ("can't find label for jump to '" ++ String.ofList l ++ "'")
  | none => return found

end ProfiledBuild.Editor
