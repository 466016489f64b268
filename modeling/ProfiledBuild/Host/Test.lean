import ProfiledBuild.Host.Options

/-! Conditions, as words: what is asked of files, texts and numbers, and how answers are put
together. -/

namespace ProfiledBuild.Tools

def integer? : Raw → Option Int
  | '-' :: ds => (Raw.number? ds).map fun n => -(n : Int)
  | '+' :: ds => (Raw.number? ds).map Int.ofNat
  | ds => (Raw.number? ds).map Int.ofNat

/-- What a word may be in a condition, if it is not just a text. -/
inductive Operator where
  | ofOne
  | ofTwo
  | not
  | and
  | or
  | opening
  | closing
  deriving DecidableEq, Repr

def operatorsOfOne : List String :=
  ["-r", "-w", "-x", "-e", "-f", "-d", "-c", "-b", "-p", "-u", "-g", "-k", "-s", "-t", "-z", "-n",
    "-h", "-O", "-G", "-L", "-S"]

def operatorsOfTwo : List String :=
  ["=", "!=", "<", ">", "-eq", "-ne", "-ge", "-gt", "-le", "-lt", "-nt", "-ot", "-ef"]

def Operator.ofWord? (w : Raw) : Option Operator :=
  let s := shown w
  if operatorsOfOne.contains s then some .ofOne
  else if operatorsOfTwo.contains s then some .ofTwo
  else match s with
    | "!" => some .not
    | "-a" => some .and
    | "-o" => some .or
    | "(" => some .opening
    | ")" => some .closing
    | _ => none

def holdsOfOne (h : Host) (operator : Raw) (s : Raw) : Bool :=
  let node? := (h.lookup s).toOption
  match shown operator with
  | "-n" => s ≠ []
  | "-z" => s = []
  | "-f" => node?.any isPlainFile
  | "-d" => node? = some .directory
  | "-s" => node?.any fun node => !isDevice node && node ≠ .file [] true && node ≠ .file [] false
  | "-x" => node?.any fun node => !isDevice node && !(node matches .file _ false)
  | "-c" => node?.any isDevice
  | "-h" => isLink
  | "-L" => isLink
  | o => ["-e", "-r", "-w", "-O", "-G"].contains o && node?.isSome
where
  isPlainFile (node : Node) : Bool := node matches .file .. | .tool _
  isDevice (node : Node) : Bool := node matches .device _
  isLink : Bool := match h.lookupLink s with
    | .ok (.link _) => true
    | _ => false

/-- A file that is not there is neither older nor newer than others, nor the same. -/
def holdsOfFiles (h : Host) (operator : Raw) (a b : Raw) : Bool :=
  match h.place a, h.place b with
  | .ok a, .ok b =>
    match shown operator with
    | "-nt" => h.timeOf b < h.timeOf a
    | "-ot" => h.timeOf a < h.timeOf b
    | _ => a = b
  | _, _ => false

def compareIntegers (operator : String) (a b : Int) : Option Bool :=
  match operator with
  | "-eq" => some (a = b)
  | "-ne" => some (a ≠ b)
  | "-lt" => some (a < b)
  | "-le" => some (a ≤ b)
  | "-gt" => some (b < a)
  | "-ge" => some (b ≤ a)
  | _ => none

def illegalNumber (word : Raw) : String := "Illegal number: " ++ shown word

def holdsOfTwo (h : Host) (operator a b : Raw) : Except String Bool :=
  match shown operator with
  | "=" => .ok (a = b)
  | "!=" => .ok (a ≠ b)
  | "<" => .ok (a < b)
  | ">" => .ok (b < a)
  | o =>
    if (compareIntegers o 0 0).isNone then .ok (holdsOfFiles h operator a b)
    else match integer? (trimmed a), integer? (trimmed b) with
      | some m, some n => .ok ((compareIntegers o m n).getD false)
      | none, _ => .error (illegalNumber a)
      | some _, none => .error (illegalNumber b)
where
  trimmed (w : Raw) : Raw :=
    let isSpace (c : Char) : Bool := c = ' ' || ('\t' ≤ c && c ≤ '\r')
    ((w.dropWhile isSpace).reverse.dropWhile isSpace).reverse

/-- The operator at the front of words. One that wants a word is a text itself if there is none, or
if an operator of two words follows. -/
def operator? : List Raw → Option Operator
  | [] => none
  | w :: rest =>
    match Operator.ofWord? w, rest with
    | some .ofOne, [] => none
    | some .ofOne, [_] => some .ofOne
    | some .ofOne, next :: _ =>
      if Operator.ofWord? next = some .ofTwo then none else some .ofOne
    | some .opening, [] => none
    | o, _ => o

/-- An answer, the last word that was looked at for it, and the words that are left. -/
structure Answer where
  holds : Bool
  last : Raw
  rest : List Raw

mutual

def anyOf (h : Host) : Nat → List Raw → Except String Answer
  | 0, _ => .ok ⟨false, [], []⟩
  | fuel + 1, words => do
    let a ← allOf h fuel words
    match operator? a.rest with
    | some .or =>
      let b ← anyOf h fuel a.rest.tail
      return { b with holds := a.holds || b.holds }
    | _ => return a

def allOf (h : Host) : Nat → List Raw → Except String Answer
  | 0, _ => .ok ⟨false, [], []⟩
  | fuel + 1, words => do
    let a ← negated h fuel (operator? words) words
    match operator? a.rest with
    | some .and =>
      let b ← allOf h fuel a.rest.tail
      return { b with holds := a.holds && b.holds }
    | _ => return a

def negated (h : Host) : Nat → Option Operator → List Raw → Except String Answer
  | 0, _, _ => .ok ⟨false, [], []⟩
  | fuel + 1, some .not, w :: rest =>
    if rest = [] then .ok ⟨true, w, []⟩
    else do
      let a ← negated h fuel (operator? rest) rest
      return { a with holds := !a.holds }
  | fuel + 1, o, words => simple h fuel o words

def simple (h : Host) : Nat → Option Operator → List Raw → Except String Answer
  | 0, _, _ => .ok ⟨false, [], []⟩
  | _, _, [] => .ok ⟨false, [], []⟩
  | fuel + 1, some .opening, w :: rest =>
    if operator? rest = some .closing then .ok ⟨false, rest.headD w, rest.tail⟩
    else do
      let a ← anyOf h fuel rest
      match operator? a.rest, a.rest with
      | some .closing, closing :: rest => return ⟨a.holds, closing, rest⟩
      | _, _ => throw "closing paren expected"
  | _ + 1, some .ofOne, o :: w :: rest => .ok ⟨holdsOfOne h o w, w, rest⟩
  | _ + 1, some .ofOne, [o] => .error (shown o ++ ": argument expected")
  | _ + 1, _, w :: rest =>
    match operator? rest, rest with
    | some .ofTwo, [o] => .error (shown o ++ ": argument expected")
    | some .ofTwo, o :: b :: rest => do return ⟨← holdsOfTwo h o w b, b, rest⟩
    | _, rest => .ok ⟨w ≠ [], w, rest⟩

end

/-- Whether a condition holds. All its words have to be used. -/
def evaluate (h : Host) (words : List Raw) : Except String Bool := do
  let a ← anyOf h (4 * words.length + 4) words
  if a.rest = [] then return a.holds else throw (shown a.last ++ ": unexpected operator")

/-- Conditions of few words are read by their number first: an operator in the middle of three
counts before parentheses and negations around others. -/
def verdict (h : Host) : List Raw → Except String Bool
  | [] => .ok false
  | [a, o, b] =>
    if Operator.ofWord? o = some .ofTwo then holdsOfTwo h o a b
    else if a = ['('] ∧ b = [')'] then evaluate h [o]
    else if a = ['!'] then (verdict h [o, b]).map (!·)
    else evaluate h [a, o, b]
  | [a, b, c, d] =>
    if a = ['('] ∧ d = [')'] then evaluate h [b, c]
    else if a = ['!'] then (verdict h [b, c, d]).map (!·)
    else evaluate h [a, b, c, d]
  | words => evaluate h words
termination_by words => words.length

/-- The status of a condition. Called as `[` it wants a closing bracket. -/
def test (label : String) (name : Raw) (args : List Raw) (x : Context) : Ending × Context :=
  let words : Except String (List Raw) :=
    if name ≠ ['['] then .ok args
    else if args.getLast? = some [']'] then .ok args.dropLast
    else .error "missing ]"
  match words.bind (verdict x.host) with
  | .ok v => (.exited (if v then 0 else 1), x)
  | .error why => (.exited 2, x.say (label ++ why))

end ProfiledBuild.Tools
