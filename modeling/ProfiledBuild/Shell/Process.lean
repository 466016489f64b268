import ProfiledBuild.Shell.Builtin

/-! What processes are started with: shells, and programs that start other ones. -/

namespace ProfiledBuild.Shell

/-- What a process is given at its start: its number and that of its parent, variables, descriptors,
and the signals that it leaves alone. -/
structure Process where
  pid : Nat
  parent : Nat
  environment : List (Raw × Raw)
  descriptors : Descriptors
  ignored : List Nat

def Process.searchPath (p : Process) : Raw :=
  (p.environment.lookup Host.pathVariable).getD Host.standardPath

def Process.setting (p : Process) (name : String) : Option Octets :=
  (p.environment.lookup (Raw.ofString name)).map Raw.toOctets

structure Invocation where
  command : Bool
  letters : List Char
  operands : List Raw

/-- The options at the front of a shell's arguments, or what is wrong with them. The letter `o` takes
the next word for a name. -/
def invocation (i : Invocation) : List Raw → Except String Invocation
  | [] => .ok i
  | ['-'] :: rest => .ok { i with operands := rest }
  | ['-', '-'] :: rest => .ok { i with operands := rest }
  | ['-', 'o'] :: name :: rest =>
    match Manner.options.lookup (String.ofList name) with
    | some letter => invocation { i with letters := i.letters ++ letter.toList } rest
    | none => .error ("Illegal option -o " ++ Tools.shown name)
  | ('-' :: letters) :: rest =>
    match letters.find? fun c => c ≠ 'c' && c ≠ 'l' && !Manner.letters?.contains c with
    | some c => .error ("Illegal option -" ++ c.toString)
    | none =>
      invocation { i with
        command := i.command || letters.contains 'c'
        letters := i.letters ++ letters.filter Manner.letters?.contains } rest
  | ('+' :: letters) :: rest =>
    invocation { i with letters := i.letters.filter (!letters.contains ·) } rest
  | operands => .ok { i with operands := operands }

def isShell (tool : String) : Bool := tool = "sh" || tool = "dash" || tool = "bash"

def State.fresh (p : Process) (image : Image) (host : Host) : State :=
  let path := startPath host (p.environment.lookup "PWD".toList)
  let own : List (Raw × Raw) :=
    [(State.parentVariable, State.decimal p.parent), (State.optionVariable, ['1']),
      ("PWD".toList, path), ("IFS".toList, [' ', '\t', '\n']), ("PS1".toList, ['#', ' ']),
      ("PS2".toList, ['>', ' ']), ("PS4".toList, ['+', ' '])]
  let given := p.environment.filter fun (name, _) => own.all (·.1 ≠ name)
  let isPathGiven := given.any (·.1 = Host.pathVariable)
  let standard := if isPathGiven then [] else [(Host.pathVariable, Host.standardPath)]
  { host := host
    descriptors := p.descriptors
    name := image.name
    caller := none
    args := []
    values := own ++ standard ++ given.reverse
    exported := "PWD".toList :: (p.environment.map (·.1)).filter (· ≠ "PWD".toList)
    fixed := []
    hidden := []
    functions := []
    aliases := []
    optionPlace := .start
    path := path
    status := 0
    pid := p.pid
    isSubshell := false
    depth := 0
    traps := p.ignored.map (·, [])
    jobs := []
    lastJob := none
    manner := ⟨[], image.tool = "bash"⟩
    guarded := false
    loops := 0
    fault := none
    line := 0 }

/-- A program that is to be started: in what environment, by what name, and with what arguments. -/
structure StartRequest where
  environment : List (Raw × Raw)
  command : List Raw

/-- What `env` is asked for, or the option that it does not know. -/
def envRequest (environment : List (Raw × Raw)) : List Raw → Except Char StartRequest
  | [] => .ok ⟨environment, []⟩
  | ['-'] :: rest => envRequest [] rest
  | ['-', 'i'] :: rest => envRequest [] rest
  | ['-', 'u'] :: name :: rest => envRequest (environment.filter (·.1 ≠ name)) rest
  | ['-', '-'] :: rest => .ok ⟨environment, rest⟩
  | ('-' :: 'S' :: words) :: rest =>
    .ok ⟨environment, (Raw.splitOn ' ' words).filter (· ≠ []) ++ rest⟩
  | ('-' :: 'u' :: name) :: rest => envRequest (environment.filter (·.1 ≠ name)) rest
  | ('-' :: c :: rest') :: rest =>
    if c :: rest' = "-ignore-environment".toList then envRequest [] rest
    else if "-unset=".toList.isPrefixOf (c :: rest') then
      envRequest (environment.filter (·.1 ≠ rest'.drop 6)) rest
    else .error c
  | w :: rest =>
    if w.contains '=' then
      let name := w.takeWhile (· ≠ '=')
      envRequest (environment.filter (·.1 ≠ name) ++ [(name, w.drop (name.length + 1))]) rest
    else .ok ⟨environment, w :: rest⟩

def niceRequest (environment : List (Raw × Raw)) : List Raw → StartRequest
  | ['-', 'n'] :: _ :: rest => ⟨environment, rest⟩
  | ('-' :: _) :: rest => ⟨environment, rest⟩
  | rest => ⟨environment, rest⟩

structure Gathering where
  most : Option Nat
  place : Option Raw
  separator : Option Char
  byLines : Bool
  skipEmpty : Bool
  command : List Raw

def Gathering.options : Tools.Options :=
  ⟨"0rtpx".toList, ['n', 'I', 'd', 'L', 'P', 's', 'E', 'a'],
    [("null", '0'), ("no-run-if-empty", 'r'), ("max-args", 'n'), ("delimiter", 'd'),
      ("replace", 'I'), ("max-lines", 'L'), ("max-procs", 'P'), ("verbose", 't')]⟩

def quotedWords (byLines : Bool) : Option Raw → List Raw → Raw → Option (List Raw)
  | word, done, [] => some (word.toList.map List.reverse ++ done).reverse
  | word, done, '\\' :: c :: rest => quotedWords byLines (some (c :: word.getD [])) done rest
  | word, done, c :: rest =>
    if c = '\'' || c = '"' then
      let inside := rest.takeWhile (· ≠ c)
      if inside.contains '\n' || inside.length = rest.length then none
      else quotedWords byLines (some (inside.reverse ++ word.getD [])) done
        (rest.drop (inside.length + 1))
    else if c = '\n' || (!byLines && (c = ' ' || c = '\t')) then
      quotedWords byLines none (word.toList.map List.reverse ++ done) rest
    else if byLines && word.isNone && (c = ' ' || c = '\t') then
      quotedWords byLines none done rest
    else quotedWords byLines (some (c :: word.getD [])) done rest
termination_by _ _ text => text.length
decreasing_by all_goals simp only [List.length_cons, List.length_drop]; omega

namespace Gathering

def items (g : Gathering) (text : Raw) : Option (List Raw) :=
  match g.separator with
  | some c =>
    let pieces := Raw.splitOn c text
    some (if pieces.getLast? = some [] then pieces.dropLast else pieces)
  | none => quotedWords (g.place.isSome || g.byLines) none [] text

def filled (mark item : Raw) : Nat → Raw → Raw
  | 0, text => text
  | _, [] => []
  | fuel + 1, c :: rest =>
    if mark ≠ [] && mark.isPrefixOf (c :: rest) then
      item ++ filled mark item fuel ((c :: rest).drop mark.length)
    else c :: filled mark item fuel rest

def groups (n : Nat) : Nat → List Raw → List (List Raw)
  | 0, _ => []
  | _, [] => []
  | fuel + 1, items => items.take n :: groups n fuel (items.drop n)

def commands (g : Gathering) (items : List Raw) : List (List Raw) :=
  match g.place with
  | some mark => items.map fun item =>
    g.command.zipIdx.map fun (w, i) => if i = 0 then w else filled mark item (w.length + 1) w
  | none =>
    if items = [] then if g.skipEmpty then [] else [g.command]
    else match g.most with
      | some n => (groups (max n 1) items.length items).map (g.command ++ ·)
      | none => [g.command ++ items]

def ofWords (args : List Raw) : Except String Gathering := do
  let (front, command) := options.front (fun _ => false) args
  match options.read front with
  | .error e => throw e.message
  | .ok chosen =>
    let number (letter : Char) : Option Nat := (chosen.word? letter).bind Raw.number?
    let separator := if chosen.has '0' then some '\x00'
      else (chosen.word? 'd').bind fun w => match w with
        | ['\\', 'n'] => some '\n'
        | ['\\', 't'] => some '\t'
        | ['\\', '0'] => some '\x00'
        | c :: _ => some c
        | [] => none
    return ⟨number 'n' <|> number 'L', chosen.word? 'I', separator, (chosen.word? 'L').isSome,
      chosen.has 'r', if command = [] then ["echo".toList] else command⟩

end Gathering

end ProfiledBuild.Shell
