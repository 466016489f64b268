import ProfiledBuild.Shell.Opening
import ProfiledBuild.Shell.Settings

/-! The commands that the shell itself carries out, as far as they run no other command. -/

namespace ProfiledBuild.Shell

def specialNames : List String :=
  ["break", ":", "continue", ".", "eval", "exec", "exit", "export", "local", "readonly", "return",
    "set", "shift", "times", "trap", "unset"]

def ordinaryNames : List String :=
  ["true", "false", "ulimit", "umask", "wait", "read", "cd", "pwd", "echo", "printf", "test", "[",
    "kill", "command", "type", "hash", "alias", "unalias", "getopts", "jobs", "bg", "fg"]

def isSpecial (name : Raw) : Bool := specialNames.contains (String.ofList name)

def isBuiltin (name : Raw) : Bool :=
  isSpecial name || ordinaryNames.contains (String.ofList name)

def leaveCommand (name : String) (flow : Flow) (args : List Raw) (s : State) : Flow × State :=
  match args with
  | [] => (flow, s)
  | a :: _ =>
    match (Raw.number? a).filter (· ≤ 2147483647) with
    | some n => (flow, s.withStatus n)
    | none => giveUp s (illegalNumber name a)

def loopCommand (name : String) (flow : Nat → Flow) (args : List Raw) (s : State) :
    Flow × State :=
  match args.head?.elim (some 1) Raw.number? with
  | some (n + 1) => (if s.loops = 0 then .next else flow (min (n + 1) s.loops), s.withStatus 0)
  | _ => giveUp s (illegalNumber name (args.headD []))

def shiftCommand (args : List Raw) (s : State) : Flow × State :=
  match (args.head?.map Raw.number?).getD (some 1) with
  | none => giveUp s (illegalNumber "shift" (args.headD []))
  | some n =>
    if s.args.length < n then giveUp s "shift: can't shift that many"
    else done { s with args := s.args.drop n }

def protect : Raw → Field
  | '\\' :: c :: rest => (c, true) :: protect rest
  | ['\\'] => []
  | c :: rest => (c, false) :: protect rest
  | [] => []

/-- A line goes on after a backslash at its end. -/
def readOn (c : Channel) : Nat → Host → (Raw × Bool) × Host
  | 0, h => (([], false), h)
  | fuel + 1, h =>
    let ((line, ended), h) := h.readLine c
    if ended && (line.reverse.takeWhile (· = '\\')).length % 2 = 1 then
      let ((more, ended), h) := readOn c fuel h
      ((line.dropLast ++ more, ended), h)
    else ((line, ended), h)

/-- Gives the words of a line to names; the last name takes what is left. -/
def assignWords (separators : Raw) : List Raw → Field → State → State
  | [], _, s => s
  | name :: names, line, s =>
    let isSeparator (p : Char × Bool) : Bool := !p.2 && separators.contains p.1
    let isGap (p : Char × Bool) : Bool := isSeparator p && isBlank p.1
    let line := line.dropWhile isGap
    if names = [] then
      s.set name (plain (line.reverse.dropWhile isGap).reverse)
    else
      let word := line.takeWhile (!isSeparator ·)
      let rest := (line.drop word.length).dropWhile isGap
      let rest := if rest.head?.any isSeparator then rest.tail else rest
      assignWords separators names rest (s.set name (plain word))

def mostLines : Nat := 1000

/-- The options of `read`: whether backslashes stand for themselves, and the names. -/
def readOptions (bare : Bool) : List Raw → Except String (Bool × List Raw)
  | ['-', '-'] :: rest => .ok (bare, rest)
  | ['-', 'p'] :: [] => .error "read: No arg for -p option"
  | ['-', 'p'] :: _ :: rest => readOptions bare rest
  | ('-' :: 'p' :: _) :: rest => readOptions bare rest
  | ['-', 'r'] :: rest => readOptions true rest
  | ['-', 'r', 'p'] :: _ :: rest => readOptions true rest
  | ('-' :: c :: _) :: _ => .error ("read: Illegal option -" ++ c.toString)
  | rest => .ok (bare, rest)

def readCommand (args : List Raw) (s : State) : Flow × State :=
  let channel := s.descriptors.channel 0
  match readOptions false args with
  | .error why => fail s 2 why
  | .ok (_, []) => fail s 2 "read: arg count"
  | .ok (bare, names) =>
    let ((line, ended), host) :=
      if bare then s.host.readLine channel else readOn channel mostLines s.host
    let marked := if bare then line.map (·, false) else protect line
    let s := assignWords s.separators names marked { s with host := host }
    (.next, s.withStatus (if ended then 0 else 1))

/-- The signal that a trap is for; 0 stands for the end of the shell. -/
def trapSignal? (a : Raw) : Option Nat :=
  if a.map Char.toUpper = "EXIT".toList then some 0 else Signal.ofName? a

def trapName (signal : Nat) : String := if signal = 0 then "EXIT" else Signal.name signal

def trapList (s : State) : Raw :=
  (List.range (Signal.last + 1)).flatMap fun n =>
    match s.traps.lookup n with
    | some action =>
      Raw.ofString "trap -- " ++ quoted action ++ ' ' :: (trapName n).toList ++ ['\n']
    | none => []

def setTraps (action : Option Raw) : List Raw → State → Flow × State
  | [], s => done s
  | target :: rest, s =>
    match trapSignal? target with
    | none =>
      let complaint := Raw.ofString ("trap: " ++ Tools.shown target ++ ": bad trap\n")
      (.next, (s.write 2 complaint).withStatus 1)
    | some n =>
      let others := s.traps.filter (·.1 ≠ n)
      let added := (action.filter (· ≠ ['-'])).toList.map fun a => (n, a)
      setTraps action rest { s with traps := added ++ others }

/-- A single word, or a number in the first place, is a signal whose trap is taken away. -/
def trapCommand (args : List Raw) (s : State) : Flow × State :=
  match if args.head? = some ['-', '-'] then args.tail else args with
  | [] => done (s.write 1 (trapList s))
  | [target] => setTraps none [target] s
  | action :: targets =>
    if (Raw.number? action).isSome then setTraps none (action :: targets) s
    else setTraps (some action) targets s

/-- Sends a signal to processes. A job counts as ended by it. The shell's own signal comes last; a
subshell leaves it to the shell that it belongs to. -/
def sendAll (signal : Nat) : List Raw → Bool → State → Flow × State
  | [], own, s => (if own then .killed signal else .next, s)
  | target :: rest, own, s =>
    match Raw.number? target with
    | none => fail s 2 (illegalNumber "kill" target)
    | some pid =>
      if pid = s.pid && !s.isSubshell then sendAll signal rest true s
      else if pid = s.pid then
        sendAll signal rest own { s with host := s.host.leaveSignal signal pid }
      else if s.jobs.any (·.pid = pid) then
        let ended := if Signal.isIgnored signal then s.jobs
          else s.jobs.map fun job =>
            if job.pid = pid then
              { job with status := 128 + signal, killedBy := some signal }
            else job
        sendAll signal rest own { s with jobs := ended }
      else match s.host.signal? signal pid with
        | some host => sendAll signal rest own { s with host := host }
        | none => sendAll signal rest own ((s.complain "kill: No such process\n").withStatus 1)

def killCommand (args : List Raw) (s : State) : Flow × State :=
  match Tools.KillRequest.ofWords Signal.ofName? args with
  | .error why => fail s 2 ("kill: " ++ why)
  | .ok (.list statuses) =>
    match Tools.KillRequest.names statuses with
    | .error why => fail s 2 ("kill: " ++ why)
    | .ok text => done (s.write 1 text)
  | .ok (.send signal targets) => sendAll signal targets false (s.withStatus 0)

def reported (signal : Nat) (s : State) : State :=
  if signal = 2 ∨ signal = 13 then s
  else s.write 2 (Raw.ofString (Signal.report signal ++ "\n"))

/-- Waits for what runs in the background, unless the stage is cut off before. -/
def waitCommand (args : List Raw) (s : State) : Flow × State :=
  if s.jobs ≠ [] && s.host.driver.isStopping then (.cutOff, s)
  else match args with
    | [] => done s
    | pid :: _ =>
      match s.jobs.find? fun job => some job.pid = Raw.number? pid with
      | some job =>
        let s := match job.killedBy with
          | some signal => reported signal s
          | none => s
        (.next, s.seen.withStatus job.status)
      | none => (.next, s.withStatus 127)

/-- The shell's own `echo` has one option and always replaces escapes, if it is not a plain one. -/
def echoCommand (args : List Raw) (s : State) : Flow × State :=
  let (newline, interpret, words) :=
    if s.manner.plainEcho then Tools.echoOptions true false args
    else match args with
      | ['-', 'n'] :: rest => (false, true, rest)
      | rest => (true, true, rest)
  done (s.write 1 (Tools.echoText interpret newline words))

def toolCommand (result : Ending × Tools.Context) (s : State) : Flow × State :=
  let s := { s with host := result.2.host }
  match result.1 with
  | .exited n => (.next, s.withStatus n)
  | .killed n => (.killed n, s)
  | .cutOff => (.cutOff, s)

/-- A path without empty names, points, and names that are gone back from. Two slashes at its front
are kept. -/
def simplified (path : Raw) : Raw :=
  let names := (Raw.splitOn '/' path).foldl
    (fun names name =>
      if name = [] ∨ name = ['.'] then names
      else if name = ['.', '.'] then names.tail
      else name :: names)
    []
  let front := if path.take 2 = ['/', '/'] && path.getD 2 'x' ≠ '/' then ['/'] else []
  front ++ if names = [] then ['/'] else names.reverse.flatMap ('/' :: ·)

/-- The path that the shell starts with: the one it is told, if that leads to its directory. -/
def startPath (h : Host) (told : Option Raw) : Raw :=
  match told with
  | some path =>
    if path.head? = some '/' && (h.place path).toOption = some h.directory then path
    else Tools.pathOf h.directory
  | none => Tools.pathOf h.directory

/-- Goes to another directory. Its path follows from the names that are given, unless links are to be
looked through. -/
def changeDirectory (physical : Bool) (args : List Raw) (s : State) : Flow × State :=
  match args with
  | ['-', 'P'] :: rest => changeDirectory true rest s
  | ['-', 'L'] :: rest => changeDirectory false rest s
  | ['-', '-'] :: rest => go rest
  | args => go args
where
  go (args : List Raw) : Flow × State :=
    let (target, told) := match args with
      | [] => ((s.values.lookup "HOME".toList).getD [], false)
      | ['-'] :: _ => ((s.values.lookup "OLDPWD".toList).getD s.path, true)
      | target :: _ => (target, false)
    let path := simplified (if target.head? = some '/' then target else s.path ++ '/' :: target)
    if target = [] then done s
    else
      let sought := if physical then target else path
      match s.host.lookup sought, s.host.place sought with
      | .ok .directory, .ok place =>
        let path := if physical then Tools.pathOf place else path
        let before := s.path
        let s := { s with path := path, host := { s.host with directory := place } }
        let s := (s.set "OLDPWD".toList before).set "PWD".toList path
        done (if told then s.write 1 (path ++ ['\n']) else s)
      | _, _ => fail s 2 ("cd: can't cd to " ++ Tools.shown target)

def showDirectory (args : List Raw) (s : State) : Flow × State :=
  let path := if args.head? = some ['-', 'P'] then Tools.pathOf s.host.directory else s.path
  done (s.write 1 (path ++ ['\n']))

def programPath? (s : State) (name : Raw) : Option Raw :=
  let isProgram (path : Raw) : Bool :=
    match s.host.lookup path with
    | .ok (.tool _) => true
    | .ok (.file _ executable) => executable
    | _ => false
  if name.contains '/' then some name |>.filter isProgram
  else ((Raw.splitOn ':' s.searchPath).map fun d =>
    if d = [] then name else d ++ '/' :: name).find? isProgram

def describe (short : Bool) (name : Raw) (s : State) : State :=
  let say (text : Raw) : State := s.write 1 (text ++ ['\n'])
  let isFunction := (s.functions.lookup name).isSome
  match s.aliases.lookup name with
  | some text =>
    say (if short then "alias ".toList ++ aliasText name text
      else name ++ " is an alias for ".toList ++ text)
  | none =>
  if isFunction || isBuiltin name || reserved.contains (String.ofList name) then
    if short then say name
    else say (name ++ Raw.ofString (
      if isFunction then " is a shell function"
      else if isBuiltin name then
        if isSpecial name then " is a special shell builtin"
        else " is a shell builtin"
      else " is a shell keyword"))
  else match programPath? s name with
    | some path => say (if short then path else name ++ Raw.ofString " is " ++ path)
    | none =>
      let s := if short then s else s.write 1 (name ++ Raw.ofString ": not found\n")
      s.withStatus 127

def describeFirst (short : Bool) (names : List Raw) (s : State) : Flow × State :=
  (.next, (names.take 1).foldl (fun s name => describe short name s) (s.withStatus 0))

def typeCommand (names : List Raw) (s : State) : Flow × State :=
  (.next, names.foldl (fun s name => describe false name s) (s.withStatus 0))

/-- What a command of the shell does, if the name is that of one. -/
def builtin? (name : Raw) (args : List Raw) (s : State) : Option (Flow × State) :=
  match String.ofList name with
  | ":" => some (done s)
  | "true" => some (done s)
  | "false" => some (.next, s.withStatus 1)
  | "ulimit" => some (done s)
  | "hash" => some (done s)
  | "jobs" => some (done s)
  | "times" => some (done (s.write 1 "0m0.00s 0m0.00s\n0m0.00s 0m0.00s\n".toList))
  | "bg" => some (fail s 2 "bg: No current job")
  | "fg" => some (fail s 2 "fg: No current job")
  | "umask" => some (umaskCommand args s)
  | "wait" => some (waitCommand args s)
  | "exit" => some (leaveCommand "exit" .exit args s)
  | "return" => some (leaveCommand "return" .back args s)
  | "break" => some (loopCommand "break" .leave args s)
  | "continue" => some (loopCommand "continue" .again args s)
  | "shift" => some (shiftCommand args s)
  | "export" => some (markCommand "export" exportOne (·.exported) args s)
  | "readonly" => some (markCommand "readonly" fixOne (·.fixed) args s)
  | "local" => some (localCommand args s)
  | "unset" => some (unsetCommand args s)
  | "set" => some (setCommand args s)
  | "getopts" => some (getoptsCommand args s)
  | "alias" => some (aliasCommand args s)
  | "unalias" => some (unaliasCommand args s)
  | "read" => some (readCommand args s)
  | "trap" => some (trapCommand args s)
  | "cd" => some (changeDirectory false args s)
  | "pwd" => some (showDirectory args s)
  | "echo" => some (echoCommand args s)
  | "type" => some (typeCommand args s)
  | "printf" => some (toolCommand (Tools.printf (s.label ++ "printf: ") 53 args s.context) s)
  | "test" => some (toolCommand (Tools.test (s.label ++ "test: ") name args s.context) s)
  | "[" => some (toolCommand (Tools.test (s.label ++ "[: ") name args s.context) s)
  | "kill" => some (killCommand args s)
  | _ => none

/-- What a command of the shell does with what is lost of its output: the command has failed. A
signal tells the shell that there is no reader; if it has nothing to do then, it is ended by it. -/
def withLoss (name : Raw) (result : Flow × State) : Flow × State :=
  let (flow, s) := result
  let found := { s with host := { s.host with fault := none } }
  let label := Tools.shown name ++ ": "
  let failed := (found.complain (label ++ label ++ "I/O error")).withStatus 1
  let failed := { failed with host := { failed.host with fault := none } }
  match s.host.fault with
  | none => result
  | some .noReader =>
    match s.traps.lookup 13 with
    | none => (.killed 13, found)
    | some [] => (flow, failed)
    | some _ => (.killed 13, failed)
  | some _ => (flow, failed)

/-- What has become of a command of the shell that has met a fault. A special one ends the shell. -/
def afterFault (name : Raw) (result : Flow × State) : Flow × State :=
  match result.2.fault with
  | none => result
  | some why =>
    let s := { result.2 with fault := none }
    let message := Tools.shown name ++ ": " ++ why
    if isSpecial name then giveUp s message else fail s 2 message

/-- What a command of the shell comes to, if the name is that of one. Its messages name itself. -/
def builtinOutcome? (name : Raw) (args : List Raw) (s : State) : Option (Flow × State) :=
  (builtin? name args { s with caller := none }).map fun result =>
    let (flow, after) := withLoss name (afterFault name result)
    (flow, { after with caller := s.caller })

end ProfiledBuild.Shell
