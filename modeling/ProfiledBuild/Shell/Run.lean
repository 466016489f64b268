import ProfiledBuild.Shell.Process

/-! Running shell scripts. The fuel bounds the number of steps; a script that uses it all up goes on
until it is cut off. -/

namespace ProfiledBuild.Shell

def outOfFuel (s : State) : Flow × State := (.cutOff, s)

/-- A command that was ended by a signal has a status past 128. -/
def afterKilled (signal : Nat) (s : State) : State :=
  (reported signal s).withStatus (128 + signal)

/-- Takes back what a subshell may change: everything but the host and the status. -/
def backFrom (outer inner : State) : State :=
  { outer with
    host := { inner.host with directory := outer.host.directory, mask := outer.host.mask }
    status := inner.status % 256 }

def trapped (signal : Nat) (s : State) : Option Raw :=
  if Signal.isForced signal then none else s.traps.lookup signal

/-- A shell that was told so exits when a command fails, unless its status is looked at. -/
def checked (s : State) : Flow × State :=
  if s.manner.has 'e' && !s.guarded && s.status ≠ 0 then (.exit, s) else (.next, s)

def unlessFaulty (s : State) (go : State → Flow × State) : Flow × State :=
  match s.fault with
  | none => go s
  | some why => giveUp { s with fault := none } why

/-- A name without a value may be a fault. -/
def refusing (name : Raw) (s : State) : State :=
  if s.manner.has 'u' then s.withFault (Tools.shown name ++ ": parameter not set") else s

def declaringNames : List String := ["export", "readonly", "local", "alias"]

def bareWord? : Word → Option Raw
  | [.text text false] => some text
  | _ => none

/-- The room in a pipe, and how often it may be made wider. -/
def pipeRoom : Nat := 65536
def widerPipes : Nat := 2
def pipeGrowth : Nat := 8

def mostRounds : Nat := 200000

/-- The calls of functions that may lie inside each other. -/
def deepest : Nat := 1000

/-- A command is told on the error stream if the shell was asked for it. -/
def State.traced (s : State) (assignments : List (Raw × Word)) (argv : List Raw) : State :=
  if s.manner.has 'x' then
    let values := assignments.map fun (name, _) => name ++ '=' :: (s.values.lookup name).getD []
    let mark := (s.values.lookup "PS4".toList).getD []
    s.write 2 (mark ++ Tools.spaced (values ++ argv) ++ ['\n'])
  else s

/-- The file that a script is read from: one without a slash is searched for. -/
def scriptPath? (file : Raw) (s : State) : Option Raw :=
  let isThere (path : Raw) : Bool := (s.host.lookup path) matches .ok (.file ..)
  if file.contains '/' then some file
  else ((Raw.splitOn ':' s.searchPath).map fun d =>
    if d = [] then file else d ++ '/' :: file).find? isThere

section

variable (driver : Process → Image → Host → Ending × Host)

mutual

def expand : Nat → Word → State → List Mark × State
  | 0, _, s => ([], s)
  | _, [], s => ([], s)
  | fuel + 1, part :: rest, s =>
    let (marks, s) := expandPart fuel part s
    let (more, s) := expand fuel rest s
    (marks ++ more, s)

def expandPart : Nat → Part → State → List Mark × State
  | 0, _, s => ([], s)
  | fuel + 1, part, s =>
    match part with
    | .text text true => (.hold :: text.map (.char · true), s)
    | .text text false => (text.map (.char · false), s)
    | .parameter ['@'] quoted => (s.argumentMarks quoted, s)
    | .parameter ['*'] false => (s.argumentMarks false, s)
    | .parameter name quoted =>
      match s.parameter name with
      | some value => (s.marks value quoted, s)
      | none => (s.marks [] quoted, refusing name s)
    | .size name quoted =>
      (s.marks (State.decimal ((s.parameter name).getD []).length) quoted, s)
    | .choice name unlessEmpty operator word quoted =>
      let value := s.parameter name
      let word := if quoted then word else s.wordWithHome word
      let present := match value with
        | none => false
        | some v => !(unlessEmpty && v = [])
      if operator = '+' then if present then expand fuel word s else ([], s)
      else if present then (s.marks (value.getD []) quoted, s)
      else
        let (marks, s) := expand fuel word s
        if operator = '=' then (marks, s.set name (plain (joined marks)))
        else if operator = '?' then
          let why := if word.isEmpty then
              "parameter not set" ++ (if unlessEmpty then " or null" else "")
            else Tools.shown (plain (joined marks))
          ([], s.withFault (Tools.shown name ++ ": " ++ why))
        else (marks, s)
    | .trim name atEnd longest pattern quoted =>
      let (marks, s) := expand fuel pattern s
      match s.parameter name with
      | some value => (s.marks (trimmed atEnd longest (joined marks) value) quoted, s)
      | none => (s.marks [] quoted, refusing name s)
    | .arithmetic text quoted =>
      let (marks, s) := expand fuel text s
      match Arithmetic.evaluate (plain (joined marks)) s.values with
      | .error why => ([], s.withFault why)
      | .ok (n, values) => (s.marks (toString n).toList quoted, s.withValues values)
    | .bad => ([], s.withFault "Bad substitution")
    | .substitution script quoted =>
      let id := s.host.freshStream
      let inner := { s.forSubshell with
        host := s.host.setStream id []
        descriptors := s.descriptors.set 1 (.stream id) }
      let (flow, inner) := runText fuel script inner
      let (flow, inner) := atEnd fuel flow inner
      let text := inner.host.stream id
      let text := (text.reverse.dropWhile (· = '\n')).reverse
      let after := backFrom s inner
      let after := { after with host := after.host.dropStream id }
      (s.marks text quoted, match flow with
        | .killed n => after.withStatus (128 + n)
        | _ => after)

/-- The fields of several words. A command that declares variables takes an assignment as one
field. -/
def expandAll : Nat → Bool → List Word → State → List Raw × State
  | 0, _, _, s => ([], s)
  | _, _, [], s => ([], s)
  | fuel + 1, declares, w :: rest, s =>
    let (found, s) := match if declares then assignment? w else none with
      | some (name, value) =>
        let (marks, s) := expand fuel (s.valueWithHomes true value) s
        ([name ++ '=' :: plain (joined marks)], s)
      | none =>
        let (marks, s) := match w with
          | [.text [] true, .parameter ['@'] true] => (s.argumentMarks true, s)
          | w => expand fuel (s.wordWithHome w) s
        let found := fields marks
        (if s.manner.has 'f' then found.map plain else found.flatMap (globbed s.host), s)
    let (more, s) := expandAll fuel declares rest s
    (found ++ more, s)

def expandCommand : Nat → List Word → State → List Raw × State
  | 0, _, s => ([], s)
  | fuel + 1, words, s =>
    let (name, s) := expandAll fuel false (words.take 1) s
    let leading := if name = ["command".toList] then words.tail.head?.bind bareWord? else name.head?
    let declares := leading.any fun name => declaringNames.contains (String.ofList name)
    let (args, s) := expandAll fuel declares words.tail s
    (name ++ args, s)

def redirectAll : Nat → List Redirect → State → Except (String × State) State
  | 0, _, s => .ok s
  | _, [], s => .ok s
  | fuel + 1, r :: rest, s =>
    let target := if r.kind = .here then r.target else s.wordWithHome r.target
    let (marks, s) := expand fuel target s
    let target := plain (joined marks)
    if r.kind = .duplicate && !isDescriptor target then
      .ok (s.withFault "Syntax error: Bad fd number")
    else match redirect r.descriptor r.kind target s with
    | .error why => .error (why, s)
    | .ok s => redirectAll fuel rest s

def assignAll : Nat → List (Raw × Word) → State → State
  | 0, _, s => s
  | _, [], s => s
  | fuel + 1, (name, value) :: rest, s =>
    let (marks, s) := expand fuel (s.valueWithHomes true value) s
    assignAll fuel rest (s.set name (plain (joined marks)))

def run : Nat → Command → State → Flow × State
  | 0, _, s => outOfFuel s
  | fuel + 1, command, s =>
    match command with
    | .simple line assignments words redirects =>
      let s := { s with line := line }
      if s.manner.has 'n' then (.next, s) else
      let (argv, s) := expandCommand fuel words s
      let before := s.descriptors
      match redirectAll fuel redirects s with
      | .error (why, s) =>
        let s := restored redirects before ((s.complain why).withStatus 2)
        if argv.head?.any isSpecial then (.giveUp, s) else checked s
      | .ok s =>
        match argv with
        | [] =>
          let status := if words.isEmpty then 0 else s.status
          let s := (assignAll fuel assignments (s.withStatus status)).traced assignments []
          unlessFaulty (restored redirects before s) (afterChild fuel)
        | name :: args =>
          let outer := s
          let s := (assignAll fuel assignments s).traced assignments argv
          let s := assignments.foldl (fun s (name, _) => s.exportName name) s
          unlessFaulty s fun s =>
            let (flow, s) := invoke fuel name args s
            let s := if isSpecial name then s
              else assignments.foldl (fun s (name, _) => s.takeBack outer name) s
            let s := if name = "exec".toList && args = [] then s
              else restored redirects before s
            if flow = .next then afterChild fuel s else (flow, s)
    | .sequence commands => runAll fuel commands s
    | .and left right =>
      let (flow, s) := guardedRun fuel left s
      if flow ≠ .next ∨ s.status ≠ 0 then (flow, s) else run fuel right s
    | .or left right =>
      let (flow, s) := guardedRun fuel left s
      if flow ≠ .next ∨ s.status = 0 then (flow, s) else run fuel right s
    | .not command =>
      let (flow, s) := guardedRun fuel command s
      (flow, s.withStatus (if s.status = 0 then 1 else 0))
    | .pipe left right =>
      let (flow, s) := piped fuel widerPipes pipeRoom left right s
      if flow = .next then afterChild fuel s else (flow, s)
    | .branch condition yes no =>
      let (flow, s) := guardedRun fuel condition s
      if flow ≠ .next then (flow, s)
      else if s.status = 0 then run fuel yes s
      else run fuel no (s.withStatus 0)
    | .loop untilTrue condition body =>
      let (flow, inner) := loop fuel untilTrue condition body 0 0 { s with loops := s.loops + 1 }
      (flow, { inner with loops := s.loops })
    | .each name words body =>
      let inner := { s with loops := s.loops + 1 }
      let (flow, after) := match words with
        | none => eachLoop fuel name s.args body (inner.withStatus 0)
        | some words =>
          let (values, inner) := expandAll fuel false words inner
          unlessFaulty inner fun s => eachLoop fuel name values body (s.withStatus 0)
      (flow, { after with loops := s.loops })
    | .select word arms =>
      let (marks, s) := expand fuel (s.wordWithHome word) s
      unlessFaulty s fun s => select fuel (plain (joined marks)) arms (s.withStatus 0)
    | .define name body =>
      done { s with functions := (name, body) :: s.functions.filter (·.1 ≠ name) }
    | .redirected command [] => run fuel command s
    | .redirected command redirects =>
      let before := s.descriptors
      match redirectAll fuel redirects s with
      | .error (why, s) => checked (restored redirects before ((s.complain why).withStatus 2))
      | .ok s => unlessFaulty s fun s =>
        let (flow, s) := run fuel command s
        (flow, restored redirects before s)
    | .subshell command =>
      let (flow, inner) := inSubshell fuel command s
      let s := backFrom s inner
      match flow with
      | .killed n => afterChild fuel (afterKilled n s)
      | .cutOff => (.cutOff, s)
      | _ => afterChild fuel s
    | .background command =>
      let pid := s.host.lastPid + 1
      let (flow, inner) := inSubshell fuel command { s with
        host := { s.host with lastPid := pid }
        descriptors := s.descriptors.set 0 .nowhere }
      let job : Job := match flow with
        | .killed n => ⟨pid, 128 + n, some n⟩
        | _ => ⟨pid, inner.status, none⟩
      done { backFrom s inner with jobs := job :: s.jobs, lastJob := some pid }

/-- Runs two commands of which one reads what the other one writes. If the reader would have taken
more than there was room for, they are run again with more room. -/
def piped : Nat → Nat → Nat → Command → Command → State → Flow × State
  | 0, _, _, _, _, s => outOfFuel s
  | fuel + 1, tries, room, left, right, s =>
    let id := s.host.freshStream
    let (flow, inner) := inSubshell fuel left { s with
      host := s.host.setQueue id (.narrow room)
      descriptors := s.descriptors.set 1 (.stream id) }
    let middle := { backFrom s inner with status := s.status }
    match flow with
    | .cutOff => (.cutOff, middle)
    | _ =>
      let (flow, inner) := inSubshell fuel right
        { middle with descriptors := s.descriptors.set 0 (.stream id) }
      let isCut := (inner.host.streams.lookup id).any (·.isWanting)
      match isCut, tries with
      | true, tries + 1 => piped fuel tries (pipeGrowth * room) left right s
      | _, _ =>
        let after := backFrom s inner
        let after := { after with host := after.host.dropStream id }
        match flow with
        | .killed n => (.next, afterKilled n after)
        | .cutOff => (.cutOff, after)
        | _ => (.next, after)

/-- A child has come to its end: signals that it has sent are taken. -/
def afterChild : Nat → State → Flow × State
  | 0, s => outOfFuel s
  | fuel + 1, s =>
    let (flow, s) := takeSignals fuel s
    if flow = .next then checked s else (flow, s)

def inSubshell : Nat → Command → State → Flow × State
  | 0, _, s => outOfFuel s
  | fuel + 1, command, s =>
    let (flow, s) := run fuel command s.forSubshell
    atEnd fuel flow s

/-- What a shell does at its end. A status that it gives up with there is the one that counts. -/
def atEnd : Nat → Flow → State → Flow × State
  | 0, _, s => outOfFuel s
  | fuel + 1, flow, s =>
    match flow, s.traps.lookup 0 with
    | .killed n, _ => (.killed n, s)
    | .cutOff, _ => (.cutOff, s)
    | _, none => (.exit, s)
    | _, some action =>
      let (flow, after) := runText fuel action { s with traps := [] }
      match flow with
      | .killed n => (.killed n, after)
      | .cutOff => (.cutOff, after)
      | .exit => (.exit, after)
      | .giveUp => (.exit, after)
      | _ => (.exit, after.withStatus s.status)

def guardedRun : Nat → Command → State → Flow × State
  | 0, _, s => outOfFuel s
  | fuel + 1, command, s =>
    let before := s.guarded
    let (flow, s) := run fuel command { s with guarded := true }
    (flow, { s with guarded := before })

def runAll : Nat → List Command → State → Flow × State
  | 0, _, s => outOfFuel s
  | _, [], s => (.next, s)
  | fuel + 1, c :: rest, s =>
    let (flow, s) := run fuel c s
    if flow = .next then runAll fuel rest s else (flow, s)

/-- A loop keeps the status of its last round. One that goes on and on while the driver is about to
end the stage is cut off. -/
def loop : Nat → Bool → Command → Command → Nat → Nat → State → Flow × State
  | 0, _, _, _, _, _, s => outOfFuel s
  | fuel + 1, untilTrue, condition, body, round, status, s =>
    if mostRounds < round && s.host.driver.isStopping then (.cutOff, s)
    else
    let (flow, s) := guardedRun fuel condition s
    if flow ≠ .next then (flow, s)
    else if (s.status = 0) = untilTrue then (.next, s.withStatus status)
    else
      let (flow, s) := run fuel body s
      let (flow, s) := if flow = .next && s.host.sent ≠ [] then takeSignals fuel s else (flow, s)
      match flow with
      | .next => loop fuel untilTrue condition body (round + 1) s.status s
      | .again 1 => loop fuel untilTrue condition body (round + 1) s.status s
      | .again (n + 1) => (.again n, s)
      | .leave 1 => (.next, s)
      | .leave (n + 1) => (.leave n, s)
      | flow => (flow, s)

def eachLoop : Nat → Raw → List Raw → Command → State → Flow × State
  | 0, _, _, _, s => outOfFuel s
  | _, _, [], _, s => (.next, s)
  | fuel + 1, name, value :: rest, body, s =>
    let (flow, s) := unlessFaulty (s.set name value) (run fuel body)
    match flow with
    | .next => eachLoop fuel name rest body s
    | .again 1 => eachLoop fuel name rest body s
    | .again (n + 1) => (.again n, s)
    | .leave 1 => (.next, s)
    | .leave (n + 1) => (.leave n, s)
    | flow => (flow, s)

def select : Nat → Raw → List (List Word × Command) → State → Flow × State
  | 0, _, _, s => outOfFuel s
  | _, _, [], s => (.next, s)
  | fuel + 1, value, (patterns, body) :: rest, s =>
    let (hit, s) := anyMatches fuel value patterns s
    if hit then run fuel body s else select fuel value rest s

def anyMatches : Nat → Raw → List Word → State → Bool × State
  | 0, _, _, s => (false, s)
  | _, _, [], s => (false, s)
  | fuel + 1, value, w :: rest, s =>
    let (marks, s) := expand fuel (s.wordWithHome w) s
    if Pattern.matchesName (joined marks) value then (true, s) else anyMatches fuel value rest s

/-- Runs a command by its name: a function, one of the shell's own, or a program. Functions that call
each other too deeply end the shell. -/
def invoke : Nat → Raw → List Raw → State → Flow × State
  | 0, _, _, s => outOfFuel s
  | fuel + 1, name, args, s =>
    match s.functions.lookup name with
    | some body =>
      if deepest ≤ s.depth then (.killed 11, s) else
      let (flow, inner) := run fuel body
        { withArgs s args with hidden := [] :: s.hidden, loops := 0, depth := s.depth + 1 }
      let s := { unhide inner with
        args := s.args, optionPlace := s.optionPlace, loops := s.loops, depth := s.depth }
      (if flow = .back then .next else flow, s)
    | none =>
      match String.ofList name, args with
      | "exec", name :: args => external fuel true name args s
      | "exec", [] => done s
      | "eval", args =>
        if args.all (·.all isBlank) then done s
        else
          let (flow, after) := runText fuel (Tools.spaced args) { s with caller := some name }
          (flow, { after with caller := s.caller })
      | "command", ['-', 'v'] :: names => describeFirst true names s
      | "command", ['-', 'V'] :: names => describeFirst false names s
      | "command", ['-', 'p'] :: name :: args => plainly fuel name args s
      | "command", ['-', '-'] :: name :: args => plainly fuel name args s
      | "command", name :: args => plainly fuel name args s
      | "command", [] => done s
      | ".", file :: _ =>
        match scriptPath? file s with
        | some path =>
          match Tools.contents s.host path with
          | .ok text =>
            let inner := if text.all isBlank then s.withStatus 0 else s
            let (flow, after) := runText fuel text { inner with caller := some path }
            (if flow = .back then .next else flow, { after with caller := s.caller })
          | .error _ => giveUp s (".: cannot open " ++ Tools.shown file ++ ": No such file")
        | none => giveUp s (".: " ++ Tools.shown file ++ ": not found")
      | "wait", args =>
        let (flow, s) := takeSignals fuel s
        if flow ≠ .next then (flow, s) else waitCommand args s
      | _, _ =>
        match builtinOutcome? name args s with
        | some (.killed signal, s) => signalled fuel signal s
        | some result => result
        | none => external fuel false name args s

/-- Runs a command that is no function. The shell does not give up on it. -/
def plainly : Nat → Raw → List Raw → State → Flow × State
  | 0, _, _, s => outOfFuel s
  | fuel + 1, name, args, s =>
    let (flow, after) := invoke fuel name args { s with functions := [] }
    (if flow = .giveUp then .next else flow, { after with functions := s.functions })

/-- A signal has reached the shell itself. What a trap does leaves the status alone. -/
def signalled : Nat → Nat → State → Flow × State
  | 0, _, s => outOfFuel s
  | fuel + 1, signal, s =>
    match trapped signal s with
    | none => if Signal.isIgnored signal then (.next, s) else (.killed signal, s)
    | some [] => (.next, s)
    | some action =>
      let (flow, after) := runText fuel action s
      (flow, if flow = .next then after.withStatus s.status else after)

def takeSignals : Nat → State → Flow × State
  | 0, s => outOfFuel s
  | fuel + 1, s =>
    match if s.isSubshell then none else s.host.nextSignal s.pid with
    | none => (.next, s)
    | some (signal, host) =>
      let (flow, s) := signalled fuel signal { s with host := host }
      if flow = .next then takeSignals fuel s else (flow, s)

/-- Runs a program. One that takes the shell's place ends the shell. -/
def external : Nat → Bool → Raw → List Raw → State → Flow × State
  | 0, _, _, _, s => outOfFuel s
  | fuel + 1, inPlace, name, args, s =>
    let finish (ending : Ending) (s : State) : Flow × State :=
      match ending with
      | .exited n => if inPlace then (.exit, s.withStatus n) else takeSignals fuel (s.withStatus n)
      | .killed n => if inPlace then (.killed n, s) else takeSignals fuel (afterKilled n s)
      | .cutOff => (.cutOff, s)
    let start (image : Image) : Flow × State :=
      let pid := if inPlace then s.pid else s.host.lastPid + 1
      let parent := if inPlace then s.parent else s.pid
      let host := if inPlace then s.host
        else { s.host with lastPid := pid, waiting := s.pid :: s.host.waiting }
      let ignored := (s.traps.filter (·.2 = [])).map (·.1)
      let process := ⟨pid, parent, s.environment, s.descriptors, ignored⟩
      let (ending, host) := program fuel process image host
      finish ending { s.seen with host := { host with
        directory := s.host.directory, mask := s.host.mask, waiting := s.host.waiting } }
    match s.host.find s.searchPath name args with
    | .ok image => start image
    | .error e =>
      if e = .notExecutable then start ⟨"sh", "sh".toList, name :: args⟩
      else
        let missing := e ≠ .denied ∧ e ≠ .argumentsTooLong
        let why := if name = [] then "Permission denied" else if missing then "not found"
          else if e = .denied then "Permission denied" else "Argument list too long"
        let caller := if inPlace then "exec: " else ""
        let told := (if inPlace then { s with caller := none } else s).complain
          (caller ++ Tools.shown name ++ ": " ++ why)
        let s := told.withStatus (if missing then 127 else 126)
        if inPlace then (.exit, s) else (.next, s)

/-- A program from its start to its end: a shell, a driver, a program that starts others, or a tool. -/
def program : Nat → Process → Image → Host → Ending × Host
  | 0, _, _, host => (.cutOff, host)
  | fuel + 1, p, image, host =>
    let x : Tools.Context := ⟨host, p.descriptors⟩
    let ended (result : Ending × Tools.Context) : Ending × Host := (result.1, result.2.host)
    if isShell image.tool then shell fuel p image host
    else if image.tool = Host.driverTool then driver p image host
    else match image.tool with
      | "env" =>
        match envRequest p.environment image.args with
        | .error c => ended (Tools.misusedWith 125 "env" (Tools.OptionFault.letter c).message x)
        | .ok ⟨environment, []⟩ => ended (Tools.printenv environment [] x)
        | .ok r => instead fuel "env" p r host
      | "nice" =>
        match niceRequest p.environment image.args with
        | ⟨_, []⟩ => ended (.exited 0, x.write 1 ['0', '\n'])
        | r => instead fuel "nice" p r host
      | "nohup" =>
        if image.args = [] then ended (Tools.misusedWith 125 "nohup" Tools.missingOperand x)
        else instead fuel "nohup" { p with ignored := 1 :: p.ignored } ⟨p.environment, image.args⟩ host
      | "timeout" =>
        match image.args with
        | duration :: command =>
          let (ending, after) := instead fuel "timeout" p ⟨p.environment, command⟩ host
          let limit := Tools.milliseconds duration
          (if limit ≠ 0 && host.now + limit < after.now then .exited 124 else ending, after)
        | [] => ended (Tools.misusedWith 125 "timeout" Tools.missingOperand x)
      | "xargs" =>
        match Gathering.ofWords image.args with
        | .error why => ended (Tools.misused "xargs" why x)
        | .ok g =>
          let (text, x) := x.readAll
          match g.items text with
          | none => ended (.exited 1, x.say "xargs: unmatched quote")
          | some items => runEach fuel p (g.commands items) 0 x.host
      | _ => ended (Tools.run p.environment p.ignored image x)

/-- Runs a program in the place of another one that has been asked for it. -/
def instead : Nat → String → Process → StartRequest → Host → Ending × Host
  | 0, _, _, _, host => (.cutOff, host)
  | fuel + 1, caller, p, r, host =>
    let p := { p with environment := r.environment }
    let name := r.command.headD []
    match host.find p.searchPath name r.command.tail with
    | .ok image => program fuel p image host
    | .error e =>
      if e = .notExecutable then program fuel p ⟨"sh", "sh".toList, r.command⟩ host
      else
        let x : Tools.Context := ⟨host, p.descriptors⟩
        let x := x.say (caller ++ ": " ++ Tools.quoted name ++ ": " ++ Tools.missingFile e)
        (.exited (if e = .denied then 126 else 127), x.host)

def runEach : Nat → Process → List (List Raw) → Nat → Host → Ending × Host
  | 0, _, _, _, host => (.cutOff, host)
  | _, _, [], status, host => (.exited status, host)
  | fuel + 1, p, command :: rest, status, host =>
    let pid := host.lastPid + 1
    let child := { p with
      pid := pid, parent := p.pid, descriptors := p.descriptors.set 0 .nowhere }
    let (ending, after) := instead fuel "xargs" child ⟨p.environment, command⟩
      { host with lastPid := pid }
    let host := { after with directory := host.directory, mask := host.mask }
    match ending with
    | .cutOff => (.cutOff, host)
    | .killed _ => (.exited 125, host)
    | .exited 0 => runEach fuel p rest status host
    | .exited 255 => (.exited 124, host)
    | .exited 126 => (.exited 126, host)
    | .exited 127 => (.exited 127, host)
    | .exited _ => runEach fuel p rest 123 host

def runText : Nat → Raw → State → Flow × State
  | 0, _, s => outOfFuel s
  | fuel + 1, text, s => runTokens fuel (1 + countLines text) (tokensOf text) s

/-- Runs the lines of a script, each of which is read as soon as it is its turn. -/
def runTokens : Nat → Nat → Tokens → State → Flow × State
  | 0, _, _, s => outOfFuel s
  | fuel + 1, last, tokens, s =>
    match nextLine ⟨last, if s.manner.plainEcho then [] else s.aliases⟩ tokens with
    | .error fault =>
      let s := { s with line := fault.line }
      giveUp s ("Syntax error: " ++ fault.message)
    | .ok none => (.next, s)
    | .ok (some (command, rest)) =>
      let (flow, s) := run fuel command s
      if flow = .next then runTokens fuel last rest s else (flow, s)

def shell : Nat → Process → Image → Host → Ending × Host
  | 0, _, _, host => (.cutOff, host)
  | fuel + 1, p, image, host =>
    let fresh := State.fresh p image host
    let refuse (message : String) : Ending × Host := (.exited 2, (fresh.complain message).host)
    let start (text : Raw) (s : State) : Ending × Host :=
      let (flow, s) := runText fuel text s
      let (flow, s) := atEnd fuel flow s
      match flow with
      | .killed n => (.killed n, s.host)
      | .cutOff => (.cutOff, s.host)
      | _ => (.exited (s.status % 256), s.host)
    match invocation ⟨false, [], []⟩ image.args with
    | .error why => refuse why
    | .ok i =>
      let fresh := { fresh with manner := fresh.manner.switch true i.letters }
      let fromInput (args : List Raw) : Ending × Host :=
        let (text, host) := host.readAll (p.descriptors.channel 0)
        start text { fresh with
          host := host, args := args, manner := fresh.manner.switch true ['s'] }
      if i.command then
        match i.operands with
        | [] => refuse "-c requires an argument"
        | text :: [] => start text fresh
        | text :: name :: args => start text { fresh with name := name, args := args }
      else if i.letters.contains 's' then fromInput i.operands
      else match i.operands with
        | [] => fromInput []
        | file :: args =>
          match host.lookup file with
          | .ok (.file text _) => start text { fresh with name := file, args := args }
          | .ok (.tool _) => refuse (Tools.shown file ++ ": Syntax error: word unexpected")
          | .ok _ => (.exited 0, host)
          | .error e =>
            let why := if e = .denied then "Permission denied" else "No such file"
            refuse ("cannot open " ++ Tools.shown file ++ ": " ++ why)

end

end

def stepLimit : Nat := 1000000000

end ProfiledBuild.Shell
