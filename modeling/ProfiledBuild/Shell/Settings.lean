import ProfiledBuild.Shell.Names

/-! Commands that change what the shell goes by: its options and arguments, variables, other texts
for commands, and the mask for new files. -/

namespace ProfiledBuild.Shell

def giveUp (s : State) (message : String) : Flow × State :=
  (.giveUp, (s.complain message).withStatus 2)

def fail (s : State) (status : Nat) (message : String) : Flow × State :=
  (.next, (s.complain message).withStatus status)

def done (s : State) : Flow × State := (.next, s.withStatus 0)

def illegalNumber (command : String) (word : Raw) : String :=
  command ++ ": Illegal number: " ++ Tools.shown word

/-- A text in single quotes. Single quotes themselves stand between others. -/
def quotedText : Nat → Raw → Raw
  | 0, _ => []
  | fuel + 1, text =>
    let outside := text.takeWhile (· ≠ '\'')
    let rest := text.drop outside.length
    let quotes := rest.takeWhile (· = '\'')
    let rest := rest.drop quotes.length
    '\'' :: outside ++ ['\''] ++
      if quotes = [] then []
      else '"' :: quotes ++ ['"'] ++ if rest = [] then [] else quotedText fuel rest

def quoted (text : Raw) : Raw := quotedText (text.length + 1) text

def nameAndValue (a : Raw) : Raw × Option Raw :=
  let name := a.takeWhile (· ≠ '=')
  (name, if name.length < a.length then some (a.drop (name.length + 1)) else none)

def setOne (s : State) (a : Raw) : State :=
  match nameAndValue a with
  | (name, some value) => s.set name value
  | _ => s

def exportOne (s : State) (a : Raw) : State := (setOne s a).exportName (nameAndValue a).1

def fixOne (s : State) (a : Raw) : State :=
  let s := setOne s a
  { s with fixed := (nameAndValue a).1 :: s.fixed }

def listing (command : Raw) (names : List Raw) (s : State) : Raw :=
  (names.eraseDups.mergeSort fun a b => !(b < a)).flatMap fun name =>
    let value := match s.values.lookup name with
      | some value => '=' :: quoted value
      | none => []
    command ++ name ++ value ++ ['\n']

def markCommand (command : String) (one : State → Raw → State) (marked : State → List Raw)
    (args : List Raw) (s : State) : Flow × State :=
  let names := if args.head? = some ['-', '-'] then args.tail else args
  match names with
  | [] => done (s.write 1 (listing (command.toList ++ [' ']) (marked s) s))
  | ['-', 'p'] :: _ => done (s.write 1 (listing (command.toList ++ [' ']) (marked s) s))
  | ('-' :: c :: _) :: _ => giveUp s (command ++ ": Illegal option -" ++ c.toString)
  | names =>
    match names.find? fun a => !isName (nameAndValue a).1 with
    | some a => giveUp s (command ++ ": " ++ Tools.shown (nameAndValue a).1 ++ ": bad variable name")
    | none => done (names.foldl one s)
where
  isName (name : Raw) : Bool := name.head?.any isNameStart && name.all isNameChar

def hideOne (s : State) (a : Raw) : State :=
  let name := (nameAndValue a).1
  match s.hidden with
  | [] => s
  | frame :: frames =>
    setOne { s with hidden := (s.kept name :: frame) :: frames } a

def localCommand (args : List Raw) (s : State) : Flow × State :=
  if s.hidden = [] then giveUp s "local: not in a function" else done (args.foldl hideOne s)

def unhide (s : State) : State :=
  match s.hidden with
  | [] => s
  | frame :: frames => { frame.foldl State.back s with hidden := frames }

def unsetCommand (args : List Raw) (s : State) : Flow × State :=
  match args with
  | ['-', 'f'] :: names =>
    done { s with functions := s.functions.filter fun (name, _) => !names.contains name }
  | ['-', 'v'] :: names => done (names.foldl State.unset s)
  | ['-', '-'] :: names => done (names.foldl State.unset s)
  | ('-' :: c :: _) :: _ => giveUp s ("unset: Illegal option -" ++ c.toString)
  | names => done (names.foldl State.unset s)

def withArgs (s : State) (args : List Raw) : State :=
  { s with args := args, optionPlace := .start }

def optionList (asCommands : Bool) (m : Manner) : Raw :=
  let one (name : String) (letter : Option Char) : String :=
    let isOn := letter.any m.has
    if asCommands then "set " ++ (if isOn then "-o " else "+o ") ++ name ++ "\n"
    else name ++ String.ofList (List.replicate (16 - name.length) ' ') ++
      (if isOn then "on" else "off") ++ "\n"
  let title := if asCommands then "" else "Current option settings\n"
  (title ++ String.join (Manner.options.map fun (name, letter) => one name letter)).toList

/-- Switches options by the letters of one word. The letter `o` takes the next word for a name. -/
def switchLetters (on : Bool) : List Char → List Raw → State → Except String (List Raw × State)
  | [], rest, s => .ok (rest, s)
  | 'o' :: letters, [], s =>
    switchLetters on letters [] (s.write 1 (optionList (!on) s.manner))
  | 'o' :: letters, name :: rest, s =>
    match Manner.options.lookup (String.ofList name) with
    | some letter =>
      switchLetters on letters rest { s with manner := s.manner.switch on letter.toList }
    | none =>
      if s.manner.plainEcho then switchLetters on letters rest s
      else .error ("set: Illegal option -o " ++ Tools.shown name)
  | c :: letters, rest, s =>
    if Manner.letters?.contains c || s.manner.plainEcho then
      switchLetters on letters rest { s with manner := s.manner.switch on [c] }
    else .error ("set: Illegal option " ++ (if on then "-" else "+") ++ c.toString)

/-- Options at the front of the words of `set`, then new arguments. -/
def setOptions : Nat → List Raw → State → Except String State
  | 0, _, s => .ok s
  | _, [], s => .ok s
  | fuel + 1, w :: rest, s =>
    match w with
    | ['-'] =>
      let s := { s with manner := s.manner.switch false ['x', 'v'] }
      .ok (if rest = [] then s else withArgs s rest)
    | ['-', '-'] => .ok (withArgs s rest)
    | '-' :: letters => do
      let (rest, s) ← switchLetters true letters rest s
      setOptions fuel rest s
    | '+' :: letters => do
      let (rest, s) ← switchLetters false letters rest s
      setOptions fuel rest s
    | w => .ok (withArgs s (w :: rest))

def setCommand (args : List Raw) (s : State) : Flow × State :=
  if args = [] then done (s.write 1 (listing [] (s.values.map (·.1)) s))
  else match setOptions (args.length + 1) args s with
    | .ok s => done s
    | .error why => giveUp s why

/-- Reads the next option of arguments. The letters that are known may each be followed by a colon:
they take a word. A colon in front of all asks for silence. -/
def nextOption (letters : Raw) (name : Raw) (args : List Raw) (s : State) : Bool × State :=
  let place := s.optionPlace
  let left := (place.offset.bind fun n => (args[place.next - 2]?).map (·.drop n)).getD []
  let isWithin := 1 < place.next && left ≠ []
  let finish (found : Char) (rest : Raw) (next : Nat) (ended : Bool) (s : State) : Bool × State :=
    let s := (s.set State.optionVariable (State.decimal next)).set name [found]
    let length := (args[next - 2]?.getD []).length
    (ended, { s with
      optionPlace := ⟨next, if rest = [] then none else some (length - rest.length)⟩ })
  let read (c : Char) (rest : Raw) (next : Nat) : Bool × State :=
    let silent := letters.head? = some ':'
    let known := letters.dropWhile (· ≠ c)
    let argument : Raw := "OPTARG".toList
    let wrong (found : Char) (message : String) : Bool × State :=
      if silent then finish found rest next false (s.set argument [c])
      else finish '?' rest next false
        ((s.write 2 (Raw.ofString (message ++ "\n"))).unset argument)
    if c = ':' || known = [] then wrong '?' ("Illegal option -" ++ c.toString)
    else if known.tail.head? ≠ some ':' then finish c rest next false (s.set argument [])
    else match rest, args[next - 1]? with
      | _ :: _, _ => finish c [] next false (s.set argument rest)
      | [], some word => finish c [] (next + 1) false (s.set argument word)
      | [], none => wrong ':' ("No arg for -" ++ c.toString ++ " option")
  if isWithin then read (left.headD '?') left.tail place.next
  else match args[place.next - 1]? with
    | some ['-', '-'] => finish '?' [] (place.next + 1) true s
    | some ('-' :: c :: rest) => read c rest (place.next + 1)
    | _ => finish '?' [] place.next true s

def getoptsCommand (words : List Raw) (s : State) : Flow × State :=
  match words with
  | letters :: name :: own =>
    let args := if own = [] then s.args else own
    let s := if args.length + 1 < s.optionPlace.next then { s with optionPlace := .start } else s
    let (ended, s) := nextOption letters name args s
    (.next, s.withStatus (if ended then 1 else 0))
  | _ => fail s 2 "getopts: Usage: getopts optstring var [arg...]"

def aliasText (name text : Raw) : Raw := name ++ '=' :: quoted text

def aliasCommand (words : List Raw) (s : State) : Flow × State :=
  let one (s : State) (w : Raw) : State :=
    match nameAndValue w with
    | (name, some text) => { s with aliases := (name, text) :: s.aliases.filter (·.1 ≠ name) }
    | (name, none) =>
      match s.aliases.lookup name with
      | some text => s.write 1 (aliasText name text ++ ['\n'])
      | none =>
        (s.write 2 (Raw.ofString ("alias: " ++ Tools.shown name ++ " not found\n"))).withStatus 1
  if words = [] then
    done (s.write 1 ((s.aliases.mergeSort fun a b => !(b.1 < a.1)).flatMap fun (name, text) =>
      aliasText name text ++ ['\n']))
  else (.next, words.foldl one (s.withStatus 0))

def unaliasCommand (words : List Raw) (s : State) : Flow × State :=
  match words with
  | ['-', 'a'] :: _ => done { s with aliases := [] }
  | words =>
    (.next, words.foldl
      (fun s name =>
        if (s.aliases.lookup name).isSome then
          { s with aliases := s.aliases.filter (·.1 ≠ name) }
        else (s.write 2 (Raw.ofString ("unalias: " ++ Tools.shown name ++ " not found\n"))).withStatus 1)
      (s.withStatus 0))

def symbolicMask (mask : Nat) : Raw :=
  let letters (bits : Nat) : Raw :=
    (if bits / 4 % 2 = 0 then ['r'] else []) ++ (if bits / 2 % 2 = 0 then ['w'] else []) ++
      (if bits % 2 = 0 then ['x'] else [])
  "u=".toList ++ letters (mask / 64) ++ ",g=".toList ++ letters (mask / 8 % 8) ++
    ",o=".toList ++ letters (mask % 8) ++ ['\n']

def rightsOf (rights : Nat) (c : Char) : Option Nat :=
  match c with
  | 'r' => some 4
  | 'w' => some 2
  | 'x' => some 1
  | 'X' => some (if rights &&& 73 = 0 then 0 else 1)
  | 'u' => some (rights / 64 % 8)
  | 'g' => some (rights / 8 % 8)
  | 'o' => some (rights % 8)
  | 's' => some 0
  | 't' => some 0
  | _ => none

def changedRights (rights : Nat) (change : Raw) : Option Nat := do
  let who := change.takeWhile fun c => "ugoa".toList.contains c
  let isMeant (c : Char) : Bool := who = [] || who.contains 'a' || who.contains c
  let places := (if isMeant 'u' then 64 else 0) + (if isMeant 'g' then 8 else 0) +
    (if isMeant 'o' then 1 else 0)
  match change.drop who.length with
  | sign :: letters =>
    let bits := (← letters.mapM (rightsOf rights)).foldl (· ||| ·) 0
    match sign with
    | '+' => return rights ||| bits * places
    | '-' => return rights &&& (511 ^^^ bits * places)
    | '=' => return (rights &&& (511 ^^^ 7 * places)) ||| bits * places
    | _ => none
  | [] => none

/-- The mask is set as an octal number, or by changes of the rights that it leaves. -/
def umaskCommand (args : List Raw) (s : State) : Flow × State :=
  let symbolic := args.head? = some ['-', 'S']
  match if symbolic then args.tail else args with
  | [] =>
    let digits := Nat.toDigits 8 s.host.mask
    let octal := List.replicate (4 - digits.length) '0' ++ digits ++ ['\n']
    done (s.write 1 (if symbolic then symbolicMask s.host.mask else octal))
  | ('-' :: c :: _) :: _ => fail s 2 ("umask: Illegal option -" ++ c.toString)
  | word :: _ =>
    let set (mask : Nat) : Flow × State := done { s with host := { s.host with mask := mask } }
    if word.head?.any Raw.isDigit then
      if word.all fun c => '0' ≤ c && c ≤ '7' then
        set (word.foldl (fun n c => n * 8 + (c.toNat - 0x30)) 0 % 512)
      else fail s 2 (illegalNumber "umask" word)
    else match (Raw.splitOn ',' word).foldlM changedRights (511 ^^^ s.host.mask) with
      | some rights => set (511 ^^^ rights)
      | none => fail s 2 ("umask: Illegal mode: " ++ Tools.shown word)

end ProfiledBuild.Shell
