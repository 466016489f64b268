import ProfiledBuild.Host.Printf
import ProfiledBuild.Shell.Token

/-! Arithmetic in shell scripts: whole numbers of the machine, variables and assignments. -/

namespace ProfiledBuild.Shell.Arithmetic

inductive Operator where
  | or
  | and
  | bitOr
  | bitXor
  | bitAnd
  | eq
  | ne
  | le
  | ge
  | lt
  | gt
  | shiftLeft
  | shiftRight
  | add
  | sub
  | mul
  | div
  | rem
  deriving DecidableEq, Repr

def operators : List (String × Operator × Nat) :=
  [("||", .or, 1), ("&&", .and, 2), ("|", .bitOr, 3), ("^", .bitXor, 4), ("&", .bitAnd, 5),
    ("==", .eq, 6), ("!=", .ne, 6), ("<=", .le, 7), (">=", .ge, 7), ("<", .lt, 7), (">", .gt, 7),
    ("<<", .shiftLeft, 8), (">>", .shiftRight, 8), ("+", .add, 9), ("-", .sub, 9), ("*", .mul, 10),
    ("/", .div, 10), ("%", .rem, 10)]

def changes : List (String × Operator) :=
  [("+=", .add), ("-=", .sub), ("*=", .mul), ("/=", .div), ("%=", .rem), ("&=", .bitAnd),
    ("|=", .bitOr), ("^=", .bitXor), ("<<=", .shiftLeft), (">>=", .shiftRight)]

inductive Expr where
  | number (n : Int)
  | parameter (name : Raw)
  | negation (e : Expr)
  | complement (e : Expr)
  | not (e : Expr)
  | binary (o : Operator) (left right : Expr)
  | choice (condition yes no : Expr)
  | assign (name : Raw) (e : Expr)

inductive Fault where
  | noPrimary
  | leftOver
  | noColon
  | noParenthesis
  | divisionByZero
  | notNumber (text : Raw)
  deriving DecidableEq, Repr

def Fault.message (expression : Raw) : Fault → String
  | .noPrimary => about "expecting primary"
  | .leftOver => about "expecting EOF"
  | .noColon => about "expecting ':'"
  | .noParenthesis => about "expecting ')'"
  | .divisionByZero => about "division by zero"
  | .notNumber text => "Illegal number: " ++ Tools.shown text
where
  about (what : String) : String :=
    "arithmetic expression: " ++ what ++ ": \"" ++ Tools.shown expression ++ "\""

inductive Lexeme where
  | number (n : Int)
  | name (name : Raw)
  | sign (text : String)
  deriving DecidableEq, Repr

/-- The longest signs come first. -/
def signs : List String :=
  ["<<=", ">>="] ++ (changes.map (·.1)).filter (·.length = 2) ++
    (operators.map (·.1)).filter (·.length = 2) ++ (operators.map (·.1)).filter (·.length = 1) ++
    ["=", "!", "~", "?", ":", "(", ")"]

/-- Any other character is a sign that no rule expects. -/
def lexemes : Nat → Raw → List Lexeme
  | 0, _ => []
  | _, [] => []
  | fuel + 1, c :: s =>
    if isBlank c then lexemes fuel s
    else if c.isDigit then
      let (n, rest) := Tools.magnitude (c :: s)
      .number (min (n.getD 0) Tools.largest) :: lexemes fuel rest
    else if isNameStart c then
      .name ((c :: s).takeWhile isNameChar) :: lexemes fuel (s.dropWhile isNameChar)
    else match signs.find? fun sign => sign.toList.isPrefixOf (c :: s) with
      | some sign => .sign sign :: lexemes fuel ((c :: s).drop sign.length)
      | none => .sign c.toString :: lexemes fuel s

abbrev Read := Except Fault (Expr × List Lexeme)

mutual

def assignment : Nat → List Lexeme → Read
  | 0, _ => .error .noPrimary
  | fuel + 1, ls =>
    match ls with
    | .name name :: .sign sign :: rest =>
      if sign = "=" then do
        let (e, rest) ← assignment fuel rest
        return (.assign name e, rest)
      else match changes.lookup sign with
        | some o => do
          let (e, rest) ← assignment fuel rest
          return (.assign name (.binary o (.parameter name) e), rest)
        | none => conditional fuel ls
    | ls => conditional fuel ls

def conditional : Nat → List Lexeme → Read
  | 0, _ => .error .noPrimary
  | fuel + 1, ls => do
    let (condition, rest) ← binary fuel 0 ls
    match rest with
    | .sign "?" :: rest => do
      let (yes, rest) ← assignment fuel rest
      match rest with
      | .sign ":" :: rest => do
        let (no, rest) ← conditional fuel rest
        return (.choice condition yes no, rest)
      | _ => throw .noColon
    | rest => return (condition, rest)

/-- Operators that bind at least so tightly. -/
def binary : Nat → Nat → List Lexeme → Read
  | 0, _, _ => .error .noPrimary
  | fuel + 1, level, ls => do
    let (left, rest) ← primary fuel ls
    climb fuel level left rest

def climb : Nat → Nat → Expr → List Lexeme → Read
  | 0, _, _, _ => .error .noPrimary
  | fuel + 1, level, left, ls =>
    match ls with
    | .sign sign :: rest =>
      match operators.lookup sign with
      | some (o, tightness) =>
        if level ≤ tightness then do
          let (right, rest) ← binary fuel (tightness + 1) rest
          climb fuel level (.binary o left right) rest
        else .ok (left, ls)
      | none => .ok (left, ls)
    | ls => .ok (left, ls)

def primary : Nat → List Lexeme → Read
  | 0, _ => .error .noPrimary
  | fuel + 1, ls =>
    match ls with
    | .number n :: rest => .ok (.number n, rest)
    | .name name :: rest => .ok (.parameter name, rest)
    | .sign "(" :: rest => do
      let (e, rest) ← assignment fuel rest
      match rest with
      | .sign ")" :: rest => return (e, rest)
      | _ => throw .noParenthesis
    | .sign "+" :: rest => primary fuel rest
    | .sign "-" :: rest => do
      let (e, rest) ← primary fuel rest
      return (.negation e, rest)
    | .sign "~" :: rest => do
      let (e, rest) ← primary fuel rest
      return (.complement e, rest)
    | .sign "!" :: rest => do
      let (e, rest) ← primary fuel rest
      return (.not e, rest)
    | _ => .error .noPrimary

end

/-- The expression that a text spells; an empty one counts as zero. Each lexeme takes a bounded
number of steps. -/
def Expr.ofText (s : Raw) : Except Fault Expr := do
  let ls := lexemes (s.length + 1) s
  if ls = [] then return .number 0
  match ← assignment (8 * (ls.length + 1)) ls with
  | (e, []) => return e
  | _ => throw .leftOver

def wrap (n : Int) : Int := n.bmod 18446744073709551616

def ofBool (b : Bool) : Int := if b then 1 else 0

def bitwise (f : Nat → Nat → Nat) (a b : Int) : Int :=
  wrap (f (a % Tools.wordSize).toNat (b % Tools.wordSize).toNat)

def Operator.apply (o : Operator) (a b : Int) : Except Fault Int :=
  let shift := (b % 64).toNat
  match o with
  | .or => .ok (ofBool (a ≠ 0 || b ≠ 0))
  | .and => .ok (ofBool (a ≠ 0 && b ≠ 0))
  | .bitOr => .ok (bitwise (· ||| ·) a b)
  | .bitXor => .ok (bitwise (· ^^^ ·) a b)
  | .bitAnd => .ok (bitwise (· &&& ·) a b)
  | .eq => .ok (ofBool (a = b))
  | .ne => .ok (ofBool (a ≠ b))
  | .le => .ok (ofBool (a ≤ b))
  | .ge => .ok (ofBool (b ≤ a))
  | .lt => .ok (ofBool (a < b))
  | .gt => .ok (ofBool (b < a))
  | .shiftLeft => .ok (wrap (a * (Nat.shiftLeft 1 shift : Nat)))
  | .shiftRight => .ok (a / (Nat.shiftLeft 1 shift : Nat))
  | .add => .ok (wrap (a + b))
  | .sub => .ok (wrap (a - b))
  | .mul => .ok (wrap (a * b))
  | .div => if b = 0 then .error .divisionByZero else .ok (wrap (a.tdiv b))
  | .rem => if b = 0 then .error .divisionByZero else .ok (wrap (a.tmod b))

abbrev Values := List (Raw × Raw)

/-- The number in a variable; a missing or empty one counts as zero. -/
def valueOf (values : Values) (name : Raw) : Except Fault Int :=
  match (values.lookup name).getD [] with
  | [] => .ok 0
  | text =>
    match Tools.leadingNumber text with
    | (some n, []) => .ok n
    | _ => .error (.notNumber text)

def Expr.eval : Expr → Values → Except Fault (Int × Values)
  | .number n, values => .ok (n, values)
  | .parameter name, values => do return (← valueOf values name, values)
  | .negation e, values => do
    let (n, values) ← e.eval values
    return (wrap (-n), values)
  | .complement e, values => do
    let (n, values) ← e.eval values
    return (-n - 1, values)
  | .not e, values => do
    let (n, values) ← e.eval values
    return (ofBool (n = 0), values)
  | .binary .or left right, values => do
    let (a, values) ← left.eval values
    if a ≠ 0 then return (1, values)
    let (b, values) ← right.eval values
    return (ofBool (b ≠ 0), values)
  | .binary .and left right, values => do
    let (a, values) ← left.eval values
    if a = 0 then return (0, values)
    let (b, values) ← right.eval values
    return (ofBool (b ≠ 0), values)
  | .binary o left right, values => do
    let (a, values) ← left.eval values
    let (b, values) ← right.eval values
    return (← o.apply a b, values)
  | .choice condition yes no, values => do
    let (n, values) ← condition.eval values
    if n ≠ 0 then yes.eval values else no.eval values
  | .assign name e, values => do
    let (n, values) ← e.eval values
    return (n, (name, (toString n).toList) :: values.filter (·.1 ≠ name))

def evaluate (text : Raw) (values : Values) : Except String (Int × Values) :=
  match Expr.ofText text >>= (·.eval values) with
  | .ok result => .ok result
  | .error fault => .error (fault.message text)

end ProfiledBuild.Shell.Arithmetic
