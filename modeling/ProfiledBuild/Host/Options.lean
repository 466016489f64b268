import ProfiledBuild.Host.Stream

/-! The options of tools: letters that stand alone, letters that take a word, and long names for
some of them. -/

namespace ProfiledBuild.Tools

structure Options where
  alone : List Char
  taking : List Char
  names : List (String × Char)

/-- What stands where an option is wanted, and is none. -/
inductive OptionFault where
  | letter (c : Char)
  | word (word : Raw)
  | missing (c : Char)

def OptionFault.message : OptionFault → String
  | .letter c => "invalid option -- '" ++ shown [c] ++ "'"
  | .word w => "unrecognized option '" ++ shown w ++ "'"
  | .missing c => "option requires an argument -- '" ++ shown [c] ++ "'"

/-- The options that are given, each with its word, and the words that are no options. -/
structure Chosen where
  options : List (Char × Raw)
  operands : List Raw

namespace Chosen

def has (c : Chosen) (letter : Char) : Bool := c.options.any (·.1 = letter)

def word? (c : Chosen) (letter : Char) : Option Raw := c.options.reverse.lookup letter

def withOption (letter : Char) (word : Raw) (c : Chosen) : Chosen :=
  { c with options := (letter, word) :: c.options }

def withOperand (word : Raw) (c : Chosen) : Chosen := { c with operands := word :: c.operands }

end Chosen

/-- The letters of one word. The last one may take what is left of the word. -/
def Options.letters (o : Options) : Raw → Except OptionFault (List (Char × Raw) × Option Char)
  | [] => .ok ([], none)
  | c :: rest =>
    if o.taking.contains c then
      .ok (if rest = [] then ([], some c) else ([(c, rest)], none))
    else if o.alone.contains c then do
      let (more, last) ← o.letters rest
      return ((c, []) :: more, last)
    else .error (.letter c)

/-- Options may stand after operands, up to two dashes. -/
def Options.read (o : Options) : List Raw → Except OptionFault Chosen
  | [] => .ok ⟨[], []⟩
  | ['-', '-'] :: rest => .ok ⟨[], rest⟩
  | ('-' :: '-' :: long) :: rest => do
    let name := long.takeWhile (· ≠ '=')
    match o.names.lookup (String.ofList name) with
    | none => .error (.word ('-' :: '-' :: long))
    | some c =>
      if o.taking.contains c && name.length = long.length then
        match rest with
        | [] => .error (.missing c)
        | word :: rest => return (← o.read rest).withOption c word
      else return (← o.read rest).withOption c (long.drop (name.length + 1))
  | ('-' :: c :: more) :: rest => do
    match ← o.letters (c :: more), rest with
    | (given, none), rest =>
      let chosen ← o.read rest
      return { chosen with options := given ++ chosen.options }
    | (given, some c), word :: rest =>
      let chosen ← o.read rest
      return { chosen with options := given ++ (c, word) :: chosen.options }
    | (_, some c), [] => .error (.missing c)
  | w :: rest => do return (← o.read rest).withOperand w

/-- The options at the front of words, with the words that they take, and the operands, of which the
first one may look like an option. -/
def Options.front (o : Options) (isOperand : Raw → Bool) : List Raw → List Raw × List Raw
  | [] => ([], [])
  | w :: rest =>
    if w = ['-', '-'] then ([], rest)
    else if w.head? ≠ some '-' || w = ['-'] || isOperand w then ([], w :: rest)
    else
      let takesNext := match w.tail with
        | '-' :: long => !long.contains '=' &&
            ((o.names.lookup (String.ofList long)).any o.taking.contains)
        | letters => match letters.dropWhile o.alone.contains with
          | [c] => o.taking.contains c
          | _ => false
      match takesNext, rest with
      | true, next :: rest =>
        let (front, words) := o.front isOperand rest
        (w :: next :: front, words)
      | _, rest =>
        let (front, words) := o.front isOperand rest
        (w :: front, words)

def quoted (r : Raw) : String := "'" ++ shown r ++ "'"

def misusedWith (status : Nat) (tool why : String) (x : Context) : Ending × Context :=
  (.exited status, sayHelp tool (x.say (tool ++ ": " ++ why)))

def misused (tool why : String) (x : Context) : Ending × Context := misusedWith 1 tool why x

def missingOperand : String := "missing operand"

def withOptions (tool : String) (o : Options) (args : List Raw)
    (run : Chosen → Context → Ending × Context) (x : Context) : Ending × Context :=
  match o.read args with
  | .error e => misused tool e.message x
  | .ok chosen => run chosen x

/-- Reads the options of a tool that has to be given some operand. -/
def withOperands (tool : String) (o : Options) (args : List Raw)
    (run : Chosen → Context → Ending × Context) (x : Context) : Ending × Context :=
  withOptions tool o args (fun chosen x =>
    if chosen.operands = [] then misused tool missingOperand x else run chosen x) x

end ProfiledBuild.Tools
