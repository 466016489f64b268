import ProfiledBuild.Host.Options
import ProfiledBuild.Text.LinePattern.Reader

/-! Expressions as words: a word an operand, a sign or a parenthesis. -/

namespace ProfiledBuild.Tools

namespace Expression

def integer? : Raw → Option Int
  | '-' :: ds => (Raw.number? ds).map fun n => -(n : Int)
  | ds => (Raw.number? ds).map Int.ofNat

def ofInt (n : Int) : Raw := (toString n).toList

def isNull (v : Raw) : Bool :=
  let digits := if v.head? = some '-' then v.tail else v
  v = [] || (digits ≠ [] && digits.all (· = '0'))

def truth (b : Bool) : Raw := if b then ['1'] else ['0']

structure Reading where
  value : Raw
  rest : List Raw

/-- How much of a text a pattern matches at its front, or what its first group has kept. -/
def matched (text pattern : Raw) : Except String Raw := do
  let (p, groups) ← LinePattern.ofText false pattern
  match p.matchAt? (.start text) with
  | some t => return if groups = 0 then ofInt t.passed else t.group 1
  | none => return if groups = 0 then ['0'] else []

def substring (text first length : Raw) : Raw :=
  match integer? first, integer? length with
  | some p, some n => if 0 < p ∧ 0 < n then (text.drop (p - 1).toNat).take n.toNat else []
  | _, _ => []

/-- The signs of operators, from those that bind least to those that bind most. -/
def levels : List (List String) :=
  [["|"], ["&"], ["<", "<=", "=", "==", "!=", ">=", ">"], ["+", "-"], ["*", "/", "%"], [":"]]

def compared (sign : String) (order : Ordering) : Bool :=
  match sign with
  | "<" => order = .lt
  | "<=" => order ≠ .gt
  | "!=" => order ≠ .eq
  | ">=" => order ≠ .lt
  | ">" => order = .gt
  | _ => order = .eq

def apply (sign : String) (a b : Raw) : Except String Raw :=
  let order : Ordering := match integer? a, integer? b with
    | some m, some n => compare m n
    | _, _ => if a < b then .lt else if a = b then .eq else .gt
  let arithmetic (f : Int → Int → Except String Int) : Except String Raw :=
    match integer? a, integer? b with
    | some m, some n => (f m n).map ofInt
    | _, _ => .error "non-integer argument"
  let divided (f : Int → Int → Int) : Except String Raw :=
    arithmetic fun m n => if n = 0 then .error "division by zero" else .ok (f m n)
  match sign with
  | "|" => .ok (if !isNull a then a else if !isNull b then b else ['0'])
  | "&" => .ok (if isNull a || isNull b then ['0'] else a)
  | "+" => arithmetic fun m n => .ok (m + n)
  | "-" => arithmetic fun m n => .ok (m - n)
  | "*" => arithmetic fun m n => .ok (m * n)
  | "/" => divided Int.tdiv
  | "%" => divided Int.tmod
  | ":" => matched a b
  | sign => .ok (truth (compared sign order))

/-- The right side of some operators does not matter after their left side. -/
def decides (sign : String) (a : Raw) : Bool :=
  (sign = "|" && !isNull a) || (sign = "&" && isNull a)

mutual

/-- The expression at the front of words, by the levels of operators. What does not matter is read
only. -/
def read (matters : Bool) : Nat → List (List String) → List Raw → Except String Reading
  | 0, _, _ => .error "syntax error"
  | fuel + 1, [], words => operand matters fuel words
  | fuel + 1, signs :: tighter, words => do
    let left ← read matters fuel tighter words
    readOn matters fuel signs tighter left

def readOn (matters : Bool) : Nat → List String → List (List String) → Reading →
    Except String Reading
  | 0, _, _, left => .ok left
  | fuel + 1, signs, tighter, left =>
    match left.rest with
    | [] => .ok left
    | w :: rest =>
      let sign := shown w
      if !signs.contains sign then .ok left
      else if rest = [] then .error ("syntax error: missing argument after " ++ quoted w)
      else do
        let matters' := matters && !decides sign left.value
        let right ← read matters' fuel tighter rest
        let value ← if matters then
            (if matters' then apply sign left.value right.value else apply sign left.value ['0'])
          else .ok ['0']
        readOn matters fuel signs tighter ⟨value, right.rest⟩

/-- A word, an expression in parentheses, or an operation that is named by a word. -/
def operand (matters : Bool) : Nat → List Raw → Except String Reading
  | 0, _ => .error "syntax error"
  | _, [] => .error "syntax error"
  | fuel + 1, w :: rest => do
    let missing : String := "syntax error: missing argument after " ++ quoted w
    match shown w, rest with
    | "(", rest =>
      let inside ← read matters fuel levels rest
      match inside.rest with
      | [')'] :: rest => return ⟨inside.value, rest⟩
      | [] => throw ("syntax error: expecting ')' after " ++ quoted ((w :: rest).getLastD []))
      | other :: _ => throw ("syntax error: expecting ')' instead of " ++ quoted other)
    | ")", _ => throw "syntax error: unexpected ')'"
    | "+", [] => throw missing
    | "+", v :: rest => return ⟨v, rest⟩
    | "length", [] => throw missing
    | "length", rest =>
      let a ← operand matters fuel rest
      return ⟨ofInt a.value.length, a.rest⟩
    | "match", rest =>
      let a ← operand matters fuel rest
      let b ← operand matters fuel a.rest
      return ⟨← matched a.value b.value, b.rest⟩
    | "index", rest =>
      let a ← operand matters fuel rest
      let b ← operand matters fuel a.rest
      let place := a.value.findIdx b.value.contains
      return ⟨ofInt (if place < a.value.length then place + 1 else 0), b.rest⟩
    | "substr", rest =>
      let a ← operand matters fuel rest
      let b ← operand matters fuel a.rest
      let c ← operand matters fuel b.rest
      return ⟨substring a.value b.value c.value, c.rest⟩
    | _, rest => return ⟨w, rest⟩

end

def evaluate (words : List Raw) : Except String Raw := do
  let r ← read true (16 * words.length + 16) levels words
  match r.rest with
  | [] => return r.value
  | w :: _ => throw ("syntax error: unexpected argument " ++ quoted w)

end Expression

/-- Writes the value of an expression. The status tells whether it is nothing or zero. -/
def expr : Tool := fun args x =>
  match if args.head? = some ['-', '-'] then args.tail else args with
  | [] => misusedWith 2 "expr" missingOperand x
  | words =>
    match Expression.evaluate words with
    | .error why => (.exited 2, x.say ("expr: " ++ why))
    | .ok v => (.exited (if Expression.isNull v then 1 else 0), x.write 1 (v ++ ['\n']))

end ProfiledBuild.Tools
