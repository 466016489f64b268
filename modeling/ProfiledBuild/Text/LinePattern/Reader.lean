import ProfiledBuild.Text.Bracket
import ProfiledBuild.Text.LinePattern

/-! Reading patterns. They are spelled in two manners: in the basic one most special signs have a
backslash before them, in the extended one they have none. -/

namespace ProfiledBuild.LinePattern

inductive Sign where
  | part (p : LinePattern)
  | start
  | stop
  | opening
  | closing
  | bar
  | times (least : Nat) (most : Option Nat)
  | brace
  | open_
  deriving DecidableEq, Repr

def letterClass? (c : Char) : Option CharSet :=
  let word : CharSet := .ranges [('a', 'z'), ('A', 'Z'), ('0', '9'), ('_', '_')]
  let space : CharSet := .ranges [('\t', '\r'), (' ', ' ')]
  match c with
  | 'w' => some word
  | 'W' => some (.complement word)
  | 's' => some space
  | 'S' => some (.complement space)
  | _ => none

def boundaryOf? (c : Char) : Option Boundary :=
  match c with
  | 'b' => some .word
  | 'B' => some .notWord
  | '<' => some .wordStart
  | '>' => some .wordEnd
  | '\x60' => some .textStart
  | '\'' => some .textEnd
  | _ => none

def escaped (extended : Bool) (c : Char) : Sign :=
  let special : Option Sign := match c with
    | '(' => some .opening
    | ')' => some .closing
    | '|' => some .bar
    | '+' => some (.times 1 none)
    | '?' => some (.times 0 (some 1))
    | '\x7b' => some .brace
    | _ => none
  match if extended then none else special with
  | some sign => sign
  | none =>
    if '1' ≤ c && c ≤ '9' then .part (.back (c.toNat - 0x30))
    else match letterClass? c, boundaryOf? c with
      | some set, _ => .part (.chars set)
      | none, some b => .part (.boundary b)
      | none, none => .part (.chars (.single c))

def bare (extended : Bool) (c : Char) : Sign :=
  let special : Option Sign := match c with
    | '(' => some .opening
    | ')' => some .closing
    | '|' => some .bar
    | '+' => some (.times 1 none)
    | '?' => some (.times 0 (some 1))
    | '\x7b' => some .brace
    | _ => none
  match if extended then special else none, c with
  | some sign, _ => sign
  | none, '.' => .part .any
  | none, '*' => .times 0 none
  | none, '^' => .start
  | none, '$' => .stop
  | none, '[' => .open_
  | none, c => .part (.chars (.single c))

def sign (extended : Bool) : Raw → Except String (Option (Sign × Raw))
  | [] => .ok none
  | ['\\'] => .error "Trailing backslash"
  | '\\' :: c :: rest => .ok (some (escaped extended c, rest))
  | c :: rest =>
    match bare extended c with
    | .open_ =>
      match Bracket.read ['^'] rest with
      | some (set, rest) => .ok (some (.part (.chars set), rest))
      | none => .error "Unmatched [, [^, [:, [., or [="
    | s => .ok (some (s, rest))

def interval? (extended : Bool) (s : Raw) : Option (Nat × Option Nat × Raw) := do
  let first := s.takeWhile Raw.isDigit
  let rest := s.drop first.length
  let least ← if first = [] then some 0 else Raw.number? first
  let (most, rest) ← match rest with
    | ',' :: rest =>
      let second := rest.takeWhile Raw.isDigit
      some (Raw.number? second, rest.drop second.length)
    | rest => if first = [] then none else some (some least, rest)
  let rest ← match extended, rest with
    | true, '\x7d' :: rest => some rest
    | false, '\\' :: '\x7d' :: rest => some rest
    | _, _ => none
  if most.any (· < least) then none else return (least, most, rest)

/-- A dollar sign is an anchor where nothing follows it. -/
def endsBranch (extended : Bool) (rest : Raw) : Bool :=
  extended || rest = [] || ['\\', ')'].isPrefixOf rest || ['\\', '|'].isPrefixOf rest

def withTimes (extended : Bool) (p : LinePattern) : Nat → Raw → Except String (LinePattern × Raw)
  | 0, s => .ok (p, s)
  | fuel + 1, s => do
    if s = ['\\'] then throw "Trailing backslash"
    match s with
    | '[' :: _ => return (p, s)
    | _ =>
      match ← sign extended s with
      | some (.times least most, rest) => withTimes extended (.repeated p least most) fuel rest
      | some (.brace, rest) =>
        match interval? extended rest with
        | some (least, most, rest) => withTimes extended (.repeated p least most) fuel rest
        | none => if extended then return (p, s) else throw "Invalid content of \\\x7b\\\x7d"
      | _ => return (p, s)

structure Reading where
  pattern : LinePattern
  rest : Raw
  groups : Nat

mutual

def branches (extended inner : Bool) : Nat → Raw → Nat → Except String Reading
  | 0, s, groups => .ok ⟨.empty, s, groups⟩
  | fuel + 1, s, groups => do
    let first ← branch extended inner fuel true s groups
    match ← sign extended first.rest with
    | some (.bar, rest) =>
      let more ← branches extended inner fuel rest first.groups
      return { more with pattern := .alt first.pattern more.pattern }
    | _ => return first

/-- One branch. At its front a circumflex is an anchor; a repetition there has nothing to repeat. -/
def branch (extended inner : Bool) : Nat → Bool → Raw → Nat → Except String Reading
  | 0, _, s, groups => .ok ⟨.empty, s, groups⟩
  | fuel + 1, first, s, groups => do
    let go (p : LinePattern) (rest : Raw) (groups : Nat) : Except String Reading := do
      let (p, rest) ← withTimes extended p (rest.length + 1) rest
      let more ← branch extended inner fuel false rest groups
      return { more with pattern := .cat p more.pattern }
    let literal (c : Char) (rest : Raw) : Except String Reading :=
      go (.chars (.single c)) rest groups
    match ← sign extended s with
    | none => return ⟨.empty, [], groups⟩
    | some (.bar, _) => return ⟨.empty, s, groups⟩
    | some (.closing, _) =>
      if inner then return ⟨.empty, s, groups⟩ else throw "Unmatched ) or \\)"
    | some (.part (.back n), rest) =>
      if groups < n then throw "Invalid back reference" else go (.back n) rest groups
    | some (.part p, rest) => go p rest groups
    | some (.start, rest) =>
      if extended || first then
        let more ← branch extended inner fuel true rest groups
        return { more with pattern := .cat (.boundary .textStart) more.pattern }
      else literal '^' rest
    | some (.stop, rest) =>
      if endsBranch extended rest then go (.boundary .textEnd) rest groups else literal '$' rest
    | some (.opening, rest) =>
      let inside ← branches extended true fuel rest (groups + 1)
      match ← sign extended inside.rest with
      | some (.closing, rest) => go (.group (groups + 1) inside.pattern) rest inside.groups
      | _ => throw "Unmatched ( or \\("
    | some (.times .., rest) =>
      if extended then branch extended inner fuel first rest groups
      else if s.head? = some '*' then literal '*' rest
      else literal (s.getD 1 '*') rest
    | some (.brace, rest) =>
      if extended then literal '\x7b' rest else throw "Invalid preceding regular expression"
    | some (.open_, rest) => literal '[' rest

end

def ofText (extended : Bool) (s : Raw) : Except String (LinePattern × Nat) := do
  let r ← branches extended false (3 * s.length + 3) s 0
  return (r.pattern, r.groups)

end ProfiledBuild.LinePattern
