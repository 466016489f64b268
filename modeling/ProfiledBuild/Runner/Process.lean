import ProfiledBuild.Pipeline

/-! The runner that starts processes. What happens to a process comes from the outside, here
called the environment; the runner turns it into an outcome and logs it. -/

namespace ProfiledBuild

inductive Happening where
  | notStarted (error : SystemError)
  | ended (pid : Nat) (waitStatus : Int32)
  | waitFailed (pid : Nat) (error : SystemError)
  | signalled (pid : Nat) (signal : ShutdownSignal)
  deriving DecidableEq, Repr

namespace Happening

/-- A program that does not exist is told apart from one that cannot be started. -/
def outcome (c : StageCommand) : Happening → Outcome
  | .notStarted error =>
    if error.isNotFound then .error (.missingCommand c.stage c.programName)
    else .error (.spawn c.stage c.programName error)
  | .ended _ status => .ok (Exit.ofWaitStatus status)
  | .waitFailed _ error => .error (.system error)
  | .signalled _ signal => .error (.interrupted c.stage signal)

def target : String := "aprs_pgo::stages::process"

def started (c : StageCommand) (pid : Nat) : Log.Record :=
  .ofMessage .debug target "spawned stage process"
    [("stage", .shown c.stage.title), ("pid", .shown ("Some(" ++ toString pid ++ ")"))]

def terminating (c : StageCommand) (signal : ShutdownSignal) : Log.Record :=
  .ofMessage .warn target "terminating running stage"
    [("stage", .shown c.stage.title), ("signal", .shown signal.text)]

/-- What reaches the error stream. What the process itself writes there comes after the note that
it has started. -/
def log (c : StageCommand) (written : Octets) : Happening → List Log.Entry
  | .notStarted _ => []
  | .ended pid _ => [.record (started c pid), .raw written]
  | .waitFailed pid _ => [.record (started c pid), .raw written]
  | .signalled pid signal =>
    [.record (started c pid), .raw written, .record (terminating c signal)]

end Happening

/-- One attempt to run a command: what became of it, what the process wrote to the error stream,
and the environment after it. -/
structure Attempt (ε : Type) where
  happening : Happening
  written : Octets
  environment : ε

def processRunner (attempt : ε → StageCommand → Attempt ε) : Runner ε := fun e command =>
  let a := attempt e command
  { outcome := a.happening.outcome command
    log := a.happening.log command a.written
    state := a.environment }

end ProfiledBuild
