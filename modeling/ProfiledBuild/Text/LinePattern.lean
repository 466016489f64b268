import ProfiledBuild.Text.Regex
import ProfiledBuild.Text.Raw

/-! Patterns that tools look for in lines. Of all matches that start at a place the longest one
counts, and its earlier parts take as much as they can. Groups of a pattern keep what they match. -/

namespace ProfiledBuild

inductive LinePattern where
  | empty
  | chars (set : CharSet)
  | boundary (b : Boundary)
  | cat (a b : LinePattern)
  | alt (a b : LinePattern)
  | repeated (a : LinePattern) (least : Nat) (most : Option Nat)
  | group (number : Nat) (a : LinePattern)
  | back (number : Nat)
  deriving DecidableEq, Repr

/-- A place in a text that a match has come to: the character before it, what is left, how much lies
behind, and what the groups have kept. -/
structure Spot where
  before : Option Char
  rest : Raw
  passed : Nat
  groups : List (Nat × Raw)
  deriving DecidableEq, Repr

namespace Spot

def start (text : Raw) : Spot := ⟨none, text, 0, []⟩

def place (s : Spot) : Place := ⟨s.before, s.rest.head?⟩

def next? (s : Spot) : Option Spot :=
  match s.rest with
  | [] => none
  | c :: rest => some { s with before := some c, rest := rest, passed := s.passed + 1 }

def after? (s : Spot) (text : Raw) : Option Spot :=
  if text = [] then some s
  else if text.isPrefixOf s.rest then
    some { s with
      before := text.getLast?
      rest := s.rest.drop text.length
      passed := s.passed + text.length }
  else none

def text (first last : Spot) : Raw := first.rest.take (last.passed - first.passed)

def keep (s : Spot) (number : Nat) (text : Raw) : Spot :=
  { s with groups := (number, text) :: s.groups.filter (·.1 ≠ number) }

def group (s : Spot) (number : Nat) : Raw := (s.groups.lookup number).getD []

end Spot

namespace LinePattern

def looksBack : LinePattern → Bool
  | .cat a b => a.looksBack || b.looksBack
  | .alt a b => a.looksBack || b.looksBack
  | .repeated a _ _ => a.looksBack
  | .group _ a => a.looksBack
  | .back _ => true
  | _ => false

/-- Two spots lead to the same matches, if groups do not matter. -/
def isSame (exact : Bool) (s t : Spot) : Bool :=
  s.passed = t.passed && (!exact || s.groups = t.groups)

/-- Of spots that lead to the same matches only the first one. -/
def distinct (exact : Bool) (spots : List Spot) : List Spot :=
  (spots.foldl (fun kept s => if kept.any (isSame exact s) then kept else s :: kept) []).reverse

def ordered (exact : Bool) (spots : List Spot) : List Spot :=
  match spots with
  | [] => []
  | [s] => [s]
  | spots => distinct exact (spots.mergeSort fun s t => t.passed ≤ s.passed)

def runs (set : CharSet) : Nat → Option Nat → List Spot → Spot → List Spot
  | 0, _, met, _ => met
  | fuel + 1, most, met, s =>
    if most = some 0 then met
    else match s.next?, s.rest with
      | some t, c :: _ =>
        if set.contains c then runs set fuel (most.map (· - 1)) (t :: met) t else met
      | _, _ => met

/-- Goes on by rounds. A round that is not asked for has to get on. -/
def rounds (exact : Bool) (step : Spot → List Spot) :
    Nat → Nat → Option Nat → List Spot → List Spot → List Spot
  | 0, _, _, met, _ => met
  | _, _, _, met, [] => met
  | fuel + 1, least, most, met, front =>
    let met := if least = 0 then met ++ front.filter fun s => !met.any (isSame exact s) else met
    if most = some 0 then met
    else
      let further := front.flatMap fun s =>
        (step s).filter fun t =>
          0 < least || (s.passed < t.passed && !met.any (isSame exact t))
      rounds exact step fuel (least - 1) (most.map (· - 1)) met (ordered exact further)

def ends (exact : Bool) : LinePattern → Spot → List Spot
  | .empty, s => [s]
  | .chars set, s =>
    match s.next?, s.rest with
    | some t, c :: _ => if set.contains c then [t] else []
    | _, _ => []
  | .boundary b, s => if b.holds s.place then [s] else []
  | .cat a b, s => ordered exact ((ends exact a s).flatMap (ends exact b))
  | .alt a b, s => ordered exact (ends exact a s ++ ends exact b s)
  | .repeated (.chars set) least most, s =>
    (runs set (s.rest.length + 1) most [s] s).filter fun t => s.passed + least ≤ t.passed
  | .repeated a least most, s =>
    ordered exact (rounds exact (ends exact a) (s.rest.length + least + 2) least most [] [s])
  | .group n a, s => (ends exact a s).map fun t => t.keep n (Spot.text s t)
  | .back n, s => (s.after? (s.group n)).toList

def matchAt? (p : LinePattern) (s : Spot) : Option Spot := (p.ends p.looksBack s).head?

/-- The first match from a spot on: where it starts and where it ends. -/
def search? (p : LinePattern) : Nat → Spot → Option (Spot × Spot)
  | 0, _ => none
  | fuel + 1, s =>
    match p.matchAt? s with
    | some t => some (s, t)
    | none => s.next?.bind (p.search? fuel)

def find? (p : LinePattern) (s : Spot) : Option (Spot × Spot) := p.search? (s.rest.length + 1) s

def isIn (p : LinePattern) (text : Raw) : Bool := (p.find? (.start text)).isSome

/-- The first match that is a word or words: no letter of a word is next to it. -/
def searchWord? (p : LinePattern) : Nat → Spot → Option (Spot × Spot)
  | 0, _ => none
  | fuel + 1, s =>
    let isFree (t : Spot) : Bool :=
      !Boundary.isWord s.before && !Boundary.isWord t.rest.head?
    match (p.ends p.looksBack s).find? isFree with
    | some t => some (s, t)
    | none => s.next?.bind (p.searchWord? fuel)

def withoutCase : LinePattern → LinePattern
  | .chars set =>
    let octets := (List.range 256).map Char.ofNat
    .chars (.ofList (octets.filter fun c =>
      set.contains c || set.contains c.toLower || set.contains c.toUpper))
  | .cat a b => .cat a.withoutCase b.withoutCase
  | .alt a b => .alt a.withoutCase b.withoutCase
  | .repeated a least most => .repeated a.withoutCase least most
  | .group n a => .group n a.withoutCase
  | p => p

def byLines : LinePattern → LinePattern
  | .boundary .textStart => .boundary (.lineStart false)
  | .boundary .textEnd => .boundary (.lineEnd false)
  | .cat a b => .cat a.byLines b.byLines
  | .alt a b => .alt a.byLines b.byLines
  | .repeated a least most => .repeated a.byLines least most
  | .group n a => .group n a.byLines
  | p => p

def any : LinePattern := .chars .all

def literal (text : Raw) : LinePattern := text.foldr (fun c p => .cat (.chars (.single c)) p) .empty

end LinePattern

end ProfiledBuild
