import ProfiledBuild.Text.CharSet

/-! Regular expressions with preferences: of two ways to go on the first one is preferred, and once
a match is found, whatever is less preferred is given up. All ways are followed at once. What is
still to be matched on a way is a list of expressions. -/

namespace ProfiledBuild

/-- What holds between two characters. Words are those of ASCII. -/
inductive Boundary where
  | textStart
  | textEnd
  | lineStart (crlf : Bool)
  | lineEnd (crlf : Bool)
  | word
  | notWord
  | wordStart
  | wordEnd
  deriving DecidableEq, Repr

structure Place where
  before : Option Char
  after : Option Char
  deriving DecidableEq, Repr

namespace Boundary

def isWord (c : Option Char) : Bool := c.any fun c => c.isAlphanum || c = '_'

def holds (p : Place) : Boundary → Bool
  | .textStart => p.before.isNone
  | .textEnd => p.after.isNone
  | .lineStart false => p.before.all (· = '\n')
  | .lineEnd false => p.after.all (· = '\n')
  | .lineStart true =>
    p.before.all (· = '\n') || (p.before = some '\r' && p.after ≠ some '\n')
  | .lineEnd true =>
    p.after.all (· = '\r') || (p.after = some '\n' && p.before ≠ some '\r')
  | .word => isWord p.before != isWord p.after
  | .notWord => isWord p.before == isWord p.after
  | .wordStart => !isWord p.before && isWord p.after
  | .wordEnd => isWord p.before && !isWord p.after

end Boundary

/-- Of two alternatives the first is preferred. A loop goes round any number of times, and rather
once more than not if it is greedy. Its first round may be a matter of course. -/
inductive Regex where
  | empty
  | chars (set : CharSet)
  | boundary (b : Boundary)
  | cat (a b : Regex)
  | alt (a b : Regex)
  | loop (greedy : Bool) (a : Regex)
  | plus (greedy : Bool) (a : Regex)
  deriving DecidableEq, Repr

namespace Regex

def isNullable : Regex → Bool
  | .empty => true
  | .chars _ => false
  | .boundary _ => true
  | .cat a b => a.isNullable && b.isNullable
  | .alt a b => a.isNullable || b.isNullable
  | .loop .. => true
  | .plus _ a => a.isNullable

def size : Regex → Nat
  | .cat a b => a.size + b.size + 1
  | .alt a b => a.size + b.size + 1
  | .loop _ a => a.size + 1
  | .plus _ a => a.size + 1
  | _ => 1

def opt (greedy : Bool) (a : Regex) : Regex :=
  if greedy then .alt a .empty else .alt .empty a

/-- An empty round of a loop would lead back to its start, where all ways are taken already. So a
body that may be empty is matched once outside of the loop. -/
def star (greedy : Bool) (a : Regex) : Regex :=
  if a.isNullable then opt greedy (.plus greedy a) else .loop greedy a

def concat (rs : List Regex) : Regex := rs.foldr .cat .empty

def any : Regex := .chars .all

inductive Thread where
  | done
  | step (set : CharSet) (rest : List Regex)
  deriving DecidableEq, Repr

/-- Follows ways to where they need a character, the most preferred one first. What has been met
before is not followed again. -/
def threads (p : Place) : Nat → List (List Regex) → List (List Regex) → List Thread
  | 0, _, _ => []
  | _, _, [] => []
  | fuel + 1, met, way :: ways =>
    if met.contains way then threads p fuel met ways
    else
      let met := way :: met
      match way with
      | [] => .done :: threads p fuel met ways
      | .empty :: rest => threads p fuel met (rest :: ways)
      | .chars set :: rest => .step set rest :: threads p fuel met ways
      | .boundary b :: rest => threads p fuel met (if b.holds p then rest :: ways else ways)
      | .cat a b :: rest => threads p fuel met ((a :: b :: rest) :: ways)
      | .alt a b :: rest => threads p fuel met ((a :: rest) :: (b :: rest) :: ways)
      | .loop greedy a :: rest =>
        let again := a :: .loop greedy a :: rest
        threads p fuel met (if greedy then again :: rest :: ways else rest :: again :: ways)
      | .plus greedy a :: rest => threads p fuel met ((a :: .loop greedy a :: rest) :: ways)

def Thread.after (c : Char) : Thread → Option (List Regex)
  | .done => none
  | .step set rest => if set.contains c then some rest else none

/-- Follows ways through a text to its end. Where a way is done, all that is less preferred is
dropped. -/
def run (fuel : Nat) (before : Option Char) (ways : List (List Regex)) : List Char → Bool
  | [] => (threads ⟨before, none⟩ fuel [] ways).contains .done
  | c :: s =>
    let live := (threads ⟨before, some c⟩ fuel [] ways).takeWhile (· ≠ .done)
    run fuel (some c) (live.filterMap (Thread.after c)) s

/-- The preferred match, which may start anywhere, goes up to the end of the text. A way is a part
of the expression with what follows it, so there are few more of them than parts. -/
def matchesToEnd (r : Regex) (s : List Char) : Bool :=
  run (4 * r.size + 10) none [[.loop false any, r]] s

def matchesWhole (r : Regex) (s : List Char) : Bool :=
  matchesToEnd (concat [.boundary .textStart, r, .boundary .textEnd]) s

end Regex

end ProfiledBuild
