import ProfiledBuild.Host.Characters
import ProfiledBuild.Host.Columns
import ProfiledBuild.Host.Copies
import ProfiledBuild.Host.Echo
import ProfiledBuild.Host.Editor.Files
import ProfiledBuild.Host.Ends
import ProfiledBuild.Host.Expression
import ProfiledBuild.Host.Repeats
import ProfiledBuild.Host.Search
import ProfiledBuild.Host.Sequences
import ProfiledBuild.Host.Signal
import ProfiledBuild.Host.Sizes
import ProfiledBuild.Host.Sort
import ProfiledBuild.Host.Test

/-! The tools of a host, each as what it does to the streams it is connected to. The shell is not
among them; it has modules of its own. -/

namespace ProfiledBuild

namespace Tools

def isDuration (word : Raw) : Bool :=
  let number :=
    match word.reverse with
    | c :: rest => if ['s', 'm', 'h', 'd'].contains c then rest else word
    | [] => []
  number.any Char.isDigit && number.count '.' ≤ 1 &&
    number.all fun c => c.isDigit || c = '.'

/-- A length of time is longer than nothing. -/
def isPositive (duration : Raw) : Bool := duration.any fun c => '1' ≤ c && c ≤ '9'

def milliseconds (duration : Raw) : Nat :=
  let unit := match duration.getLast? with
    | some 'm' => 60
    | some 'h' => 3600
    | some 'd' => 86400
    | _ => 1
  let whole := duration.takeWhile Raw.isDigit
  let places := match duration.drop whole.length with
    | '.' :: rest => (rest.takeWhile Raw.isDigit ++ ['0', '0', '0']).take 3
    | _ => ['0', '0', '0']
  ((Raw.number? (whole ++ places)).getD 0) * unit

/-- Sleeping gives the driver time to end the process, if it is about to. -/
def sleep (args : List Raw) (x : Context) : Ending × Context :=
  withOperands "sleep" ⟨[], [], []⟩ args (fun chosen x =>
    let wrong := chosen.operands.filter (!isDuration ·)
    if wrong ≠ [] then
      let x := wrong.foldl (fun x word => x.say ("sleep: invalid time interval " ++ quoted word)) x
      (.exited 1, sayHelp "sleep" x)
    else if x.host.driver.isStopping && chosen.operands.any isPositive then (.cutOff, x)
    else
      let time := (chosen.operands.map milliseconds).foldl (· + ·) 0
      (.exited 0, x.withHost { x.host with now := x.host.now + time })) x

/-- What `kill` is asked for: to send a signal, or to name the signals behind statuses. -/
inductive KillRequest where
  | send (signal : Nat) (targets : List Raw)
  | list (statuses : List Raw)

namespace KillRequest

def usage : String :=
  "Usage: kill [-s sigspec | -signum | -sigspec] [pid | job]... or\nkill -l [exitstatus]"

/-- The options at the front of the words: a signal and whether names are wanted. -/
def options (signalOf? : Raw → Option Nat) (signal : Option Nat) (asked : Bool) :
    List Raw → Except String (Option Nat × Bool × List Raw)
  | [] => .ok (signal, asked, [])
  | ['-', '-'] :: rest => .ok (signal, asked, rest)
  | ['-', 's'] :: [] => .error "No arg for -s option"
  | ['-', 's'] :: name :: rest =>
    match signalOf? name with
    | some n => options signalOf? (some n) asked rest
    | none => .error ("invalid signal number or name: " ++ shown name)
  | ['-', 'l'] :: rest => options signalOf? signal true rest
  | ('-' :: 's' :: name) :: rest =>
    match signalOf? name with
    | some n => options signalOf? (some n) asked rest
    | none => .error ("invalid signal number or name: " ++ shown name)
  | ('-' :: c :: _) :: _ => .error ("Illegal option -" ++ shown [c])
  | rest => .ok (signal, asked, rest)

/-- A signal may stand by itself after a dash, in the first place. -/
def ofWords (signalOf? : Raw → Option Nat) (words : List Raw) : Except String KillRequest := do
  let first := match words with
    | ('-' :: name) :: rest => (signalOf? name).map fun n => (n, rest)
    | _ => none
  let (signal, asked, targets) ← match first with
    | some (n, rest) => .ok (some n, false, rest)
    | none => options signalOf? none false words
  if asked then
    if signal.isSome ∧ targets ≠ [] then .error usage else return .list targets
  else if targets = [] then .error usage
  else return .send (signal.getD 15) targets

def names : List Raw → Except String Raw
  | [] => .ok (((List.range Signal.last).map fun n =>
      (Signal.name (n + 1)).toList ++ ['\n']).foldl (· ++ ·) ['0', '\n'])
  | status :: _ =>
    match Raw.number? status with
    | none => .error ("Illegal number: " ++ shown status)
    | some n =>
      let signal := if 128 < n then n - 128 else n
      if 0 < signal ∧ signal ≤ Signal.last then .ok ((Signal.name signal).toList ++ ['\n'])
      else .error ("invalid signal number or exit status: " ++ shown status)

end KillRequest

def signalOf? (r : Raw) : Option Nat :=
  let upper := r.map Char.toUpper
  if "SIG".toList.isPrefixOf upper then Signal.ofName? (upper.drop 3) else Signal.ofName? r

def kill : Tool := fun args x =>
  match KillRequest.ofWords signalOf? args with
  | .error why => (.exited 1, x.say ("kill: " ++ why))
  | .ok (.list statuses) =>
    match KillRequest.names statuses with
    | .error why => (.exited 1, x.say ("kill: " ++ why))
    | .ok text => (.exited 0, x.write 1 text)
  | .ok (.send signal targets) =>
    let one (target : Raw) (x : Context) : Except String Context :=
      match Raw.number? target with
      | none => .error ("failed to parse argument: " ++ quoted target)
      | some pid =>
        match x.host.signal? signal pid with
        | some host => .ok { x with host := host }
        | none => .error ("(" ++ shown target ++ "): No such process")
    forEach one "kill" targets 0 x

def printenv (environment : List (Raw × Raw)) : Tool := fun names x =>
  match names with
  | [] => (.exited 0, x.write 1 (environment.flatMap fun (name, value) =>
      name ++ '=' :: value ++ ['\n']))
  | names =>
    let values := names.map (environment.lookup ·)
    (.exited (if values.all Option.isSome then 0 else 1),
      x.write 1 (values.flatMap fun value => (value.map (· ++ ['\n'])).getD []))

def writeFailure (tool : String) : Nat :=
  if tool = "grep" || tool = "sort" then 2 else if tool = "sed" then 4 else 1

/-- What has become of a tool after its output. One that writes where nobody reads is ended by a
signal, unless it leaves that signal alone. -/
def settled (tool : String) (ignored : List Nat) (ending : Ending) (x : Context) :
    Ending × Context :=
  let failed (why : String) : Ending × Context :=
    let x := { x with host := { x.host with fault := none } }
    let x := x.say (tool ++ ": write error: " ++ why)
    (.exited (writeFailure tool), { x with host := { x.host with fault := none } })
  match x.host.fault with
  | none => (ending, x)
  | some .noReader =>
    if ignored.contains 13 then failed "Broken pipe"
    else (.killed 13, { x with host := { x.host with fault := none } })
  | some .noSpace => failed "No space left on device"
  | some .notOpen => failed "Bad file descriptor"

def run (environment : List (Raw × Raw)) (ignored : List Nat) (image : Image) (x : Context) :
    Ending × Context :=
  let tool : Tool :=
    match image.tool with
    | "true" => fun _ x => (.exited 0, x)
    | "false" => fun _ x => (.exited 1, x)
    | "echo" => echo
    | "printf" => printf "printf: " 64
    | "yes" => yes
    | "seq" => seq
    | "expr" => expr
    | "cat" => cat
    | "tac" => tac
    | "rev" => rev
    | "nl" => numberLines
    | "tee" => tee
    | "head" => head
    | "tail" => tail
    | "wc" => wc
    | "sort" => sort
    | "uniq" => uniq
    | "comm" => comm
    | "cmp" => cmp
    | "tr" => tr
    | "cut" => cut
    | "paste" => paste
    | "grep" => grep
    | "egrep" => fun args => grep (['-', 'E'] :: args)
    | "fgrep" => fun args => grep (['-', 'F'] :: args)
    | "sed" => sed
    | "basename" => basename
    | "dirname" => dirname
    | "printenv" => printenv environment
    | "sleep" => sleep
    | "ls" => listFiles
    | "mkdir" => makeDirectories
    | "rmdir" => removeDirectories
    | "chmod" => changeMode
    | "rm" => remove
    | "touch" => touch
    | "cp" => copy
    | "mv" => move
    | "ln" => link
    | "readlink" => readLink
    | "realpath" => realPaths
    | "kill" => kill
    | "test" => test "test: " image.name
    | "[" => test "[: " ['[']
    | _ => fun _ x => (.exited 127, x)
  let (ending, x) := tool image.args { x with host := x.host.tick }
  settled image.tool ignored ending x

end Tools

end ProfiledBuild
