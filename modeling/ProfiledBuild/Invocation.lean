import ProfiledBuild.Arguments.Reader
import ProfiledBuild.Log.Filter
import ProfiledBuild.Log.Line
import ProfiledBuild.Runner.DryRun
import ProfiledBuild.Runner.Process

/-! The program on a system: from the words of the command line to what is written and the status
that the program ends with. Nothing is known of the system but what the program asks of it. -/

namespace ProfiledBuild

/-- How a program ends: with a status, or by a signal. -/
inductive Finish where
  | status (octet : UInt8)
  | signal (number : Nat)
  deriving DecidableEq, Repr

/-- What a program asks of its system: variables, attempts to run a command, and whether a signal
has ended the program meanwhile. -/
structure System (ε : Type) where
  setting : String → Option Octets
  attempt : ε → StageCommand → Attempt ε
  endedBy : ε → Option Nat

namespace Program

def filterVariable : String := "RUST_LOG"

variable {ε : Type}

/-- The filter that the environment asks for. One that cannot be read is as good as none. -/
def filterOf (s : System ε) : Log.Filter :=
  match (s.setting filterVariable).bind Utf8.decode? with
  | some text => (Log.Filter.parse? text).getD .default
  | none => .default

def settingsRecord (config : Config) (dryRun : Bool) : Log.Entry :=
  .record (.ofMessage .debug "aprs_pgo::cli" "configuration"
    [("config", .shown config.describe), ("dry_run", .bool dryRun)])

def pipeline (config : Config) (runner : Runner σ) (clock : Clock) : Pipeline σ :=
  ⟨config, .logging .debug, runner, clock⟩

def errorsOf (a : Arguments) (filter : Log.Filter) (now : Timestamp) (log : List Log.Entry) :
    Octets :=
  (log.filterMap filter.apply).flatMap (Log.Entry.octets a.logFormat now)

/-- A log up to what the last process wrote: all that is written of it when the program ends while
that process goes on. -/
def untilLastProcess (log : List Log.Entry) : List Log.Entry :=
  (log.reverse.dropWhile fun e => e.record?.isSome).reverse

/-- What a program leaves behind. What it has printed itself and what it has for the error stream is
not written yet. -/
structure Left (ε : Type) where
  finish : Finish
  printed : Octets
  errors : Octets
  environment : ε

section

variable (t : Target) (s : System ε)

/-- Runs the pipeline on a workload. A signal may end the program before the run is over. -/
def runWorkload (a : Arguments) (w : Workload) (e : ε) (clock : Clock) (id : RunId) : Left ε :=
  let config := a.config t
  let settings := settingsRecord config a.dryRun
  let errors (log : List Log.Entry) : Octets :=
    errorsOf a (filterOf s) (clock 0) (settings :: log)
  if a.dryRun then
    let p := pipeline config dryRun clock
    let g := p.run w id .clear 0
    ⟨.status (Run.statusOctet g.run.exitCode), g.runner.out, errors (p.log g), e⟩
  else
    let p := pipeline config (processRunner s.attempt) clock
    let g := p.run w id e 0
    match s.endedBy g.runner with
    | some signal => ⟨.signal signal, [], errors (untilLastProcess (p.log g)), g.runner⟩
    | none => ⟨.status (Run.statusOctet g.run.exitCode), [], errors (p.log g), g.runner⟩

def runArguments (a : Arguments) (e : ε) (clock : Clock) (id : RunId) : Left ε :=
  match Workload.ofPath? a.workload with
  | some w => runWorkload t s a w e clock id
  | none =>
    let failure := Failure.emptyWorkload
    ⟨.status (Run.statusOctet failure.exitCode), [],
      Utf8.encode ("error: " ++ failure.message ++ "\n"), e⟩

/-- Help goes to the output, a wrong command line to the error stream. -/
def refuse (error : ArgumentError) (e : ε) : Left ε :=
  if error.isHelp then ⟨.status error.exitCode, error.plainText, [], e⟩
  else ⟨.status error.exitCode, [], error.plainText, e⟩

def runWords (words : List Octets) (e : ε) (clock : Clock) (id : RunId) : Left ε :=
  match Arguments.parse words with
  | .ok a => runArguments t s a e clock id
  | .error error => refuse error e

end

end Program

end ProfiledBuild
