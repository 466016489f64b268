import ProfiledBuild.Text.Raw
import ProfiledBuild.Text.Regex.Reader

/-! Bracket expressions: sets of characters in the patterns of shells and tools. -/

namespace ProfiledBuild.Bracket

def named? : Raw → Option (Char × Raw)
  | '.' :: c :: '.' :: ']' :: rest => some (c, rest)
  | '=' :: c :: '=' :: ']' :: rest => some (c, rest)
  | _ => none

def endpoint? : Raw → Option (Char × Raw)
  | [] => none
  | '[' :: rest => (named? rest).getD ('[', rest)
  | c :: rest => some (c, rest)

/-- The members of a bracket expression up to its end: characters, ranges, and classes by name. -/
def members : Nat → CharSet → Raw → Option (CharSet × Raw)
  | 0, _, _ => none
  | fuel + 1, set, s =>
    match s with
    | [] => none
    | ']' :: rest => some (set, rest)
    | c :: rest => do
      match if c = '[' then Regex.namedClass rest else none with
      | some (named, rest) => members fuel (.union set named) rest
      | none =>
        let (c, rest) ← endpoint? (c :: rest)
        match rest with
        | '-' :: ']' :: _ => members fuel (.union set (.single c)) rest
        | '-' :: rest' =>
          let (last, rest') ← endpoint? rest'
          members fuel (.union set (.ranges [(c, last)])) rest'
        | rest => members fuel (.union set (.single c)) rest

/-- A bracket expression after its opening bracket, with the signs that may negate it. A closing
bracket in the first place is an ordinary character. -/
def read (negations : List Char) (s : Raw) : Option (CharSet × Raw) := do
  let (negated, s) := match s with
    | c :: rest => if negations.contains c then (true, rest) else (false, s)
    | [] => (false, s)
  let (set, rest) ← match s with
    | ']' :: s => members (s.length + 1) (.single ']') s
    | s => members (s.length + 1) .none s
  return (if negated then .complement set else set, rest)

end ProfiledBuild.Bracket
