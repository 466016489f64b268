import ProfiledBuild.Arguments.Help
import ProfiledBuild.Config
import ProfiledBuild.Text.Terminal

/-! The command line: one workload path, three options that take a value, and two flags. -/

namespace ProfiledBuild

inductive LogFormat where
  | pretty
  | json
  deriving DecidableEq, Repr, Inhabited

def LogFormat.named : List (String × LogFormat) := [("pretty", .pretty), ("json", .json)]

structure Arguments where
  workload : Path
  buildTool : Path
  targetBinary : Option Path
  dryRun : Bool
  logFormat : LogFormat
  deriving DecidableEq, Repr

namespace Arguments

def config (a : Arguments) (t : Target := .linux) : Config :=
  let c := (Config.default t).withBuildTool a.buildTool
  match a.targetBinary with
  | some p => c.withTargetBinary p
  | none => c

end Arguments

inductive ValueOption where
  | buildTool
  | targetBinary
  | logFormat
  deriving DecidableEq, Repr

namespace ValueOption

def all : List ValueOption := [.buildTool, .targetBinary, .logFormat]

def name : ValueOption → String
  | .buildTool => "build-tool"
  | .targetBinary => "target-binary"
  | .logFormat => "log-format"

def usage : ValueOption → String
  | .buildTool => "--build-tool <BUILD_TOOL>"
  | .targetBinary => "--target-binary <TARGET_BINARY>"
  | .logFormat => "--log-format <LOG_FORMAT>"

def choices : ValueOption → List String
  | .logFormat => LogFormat.named.map (·.1)
  | _ => []

end ValueOption

/-- What may help with an argument that is unknown: to tell that it is a value, or to write it like
another one. -/
inductive ArgumentHint where
  | asValue
  | similar (argument : String)
  deriving DecidableEq, Repr

/-- Why a command line is not run. Asking for help is one of the reasons. -/
inductive ArgumentError where
  | help (full : Bool)
  | unknown (argument : String) (hint : Option ArgumentHint)
  | workloadMissing
  | valueMissing (argument : String) (choices : List String)
  | valueInvalid (argument value : String) (choices : List String)
  | valueUnwanted (argument value : String)
  | repeated (argument : String)
  deriving DecidableEq, Repr

namespace ArgumentError

/-- A word of the command line, in a colour of its own. Control characters in it can do no more than
the colours do, all of which are taken out of what is written. -/
def coloured (word : String) : String := "\x1b[33m" ++ word ++ "\x1b[0m"

def opening : ArgumentError → String
  | .help true => Help.full
  | .help false => Help.summary
  | .unknown argument _ => "error: unexpected argument '" ++ coloured argument ++ "' found"
  | .workloadMissing => "error: the following required arguments were not provided:"
  | .valueMissing argument _ =>
    "error: a value is required for '" ++ argument ++ "' but none was supplied"
  | .valueInvalid argument value _ =>
    "error: invalid value '" ++ coloured value ++ "' for '" ++ argument ++ "'"
  | .valueUnwanted argument value =>
    "error: unexpected value '" ++ coloured value ++ "' for '" ++ argument ++
      "' found; no more were expected"
  | .repeated argument => "error: the argument '" ++ argument ++ "' cannot be used multiple times"

def choiceLines : List String → List String
  | [] => []
  | choices => ["  [possible values: " ++ ", ".intercalate choices ++ "]"]

def hintLines (argument : String) : Option ArgumentHint → List String
  | none => []
  | some .asValue =>
    ["", "  tip: to pass '" ++ coloured argument ++ "' as a value, use '-- " ++ coloured argument ++
      "'"]
  | some (.similar other) => ["", "  tip: a similar argument exists: '" ++ other ++ "'"]

def details : ArgumentError → List String
  | .unknown argument hint => hintLines argument hint
  | .workloadMissing => ["  <WORKLOAD_PATH>"]
  | .valueMissing _ choices => choiceLines choices
  | .valueInvalid _ _ choices => choiceLines choices
  | _ => []

def text (e : ArgumentError) : String :=
  match e with
  | .help _ => e.opening
  | _ =>
    Help.lines (e.opening :: e.details ++
      ["", Help.usage, "", "For more information, try '--help'."])

def plainText (e : ArgumentError) : Octets := Terminal.streamed (Utf8.encode e.text)

def firstLine (s : String) : String :=
  let line := s.toList.takeWhile (· ≠ '\n')
  let cut := line.length < s.length && line.getLast? = some '\r'
  String.ofList (if cut then line.dropLast else line)

/-- The message in short: its first line. Words of the command line may hold line ends. -/
def headline (e : ArgumentError) : String :=
  match e with
  | .help _ => e.opening
  | _ => firstLine (Terminal.shown e.opening)

/-- Help is no failure and goes to the output. -/
def isHelp : ArgumentError → Bool
  | .help _ => true
  | _ => false

def exitCode (e : ArgumentError) : UInt8 := if e.isHelp then 0 else 2

end ArgumentError

end ProfiledBuild
