import ProfiledBuild.Stage.Basic
import ProfiledBuild.Stage.Exit
import ProfiledBuild.SystemError

/-! Why a run ends early, and the exit code that stands for each reason. -/

namespace ProfiledBuild

inductive Failure where
  | emptyWorkload
  | missingCommand (stage : Stage) (program : String)
  | spawn (stage : Stage) (program : String) (error : SystemError)
  | stageFailed (stage : Stage) (exit : Exit)
  | interrupted (stage : Stage) (signal : ShutdownSignal)
  | system (error : SystemError)
  deriving DecidableEq, Repr

namespace Failure

def usageCode : Int32 := 2

def missingCommandCode : Int32 := 127

def spawnCode : Int32 := 126

def exitCode : Failure → Int32
  | .emptyWorkload => usageCode
  | .missingCommand .. => missingCommandCode
  | .spawn .. => spawnCode
  | .stageFailed _ exit => exit.exitCode
  | .interrupted _ signal => signal.exitCode
  | .system _ => 1

def message : Failure → String
  | .emptyWorkload => "workload path must not be empty"
  | .missingCommand _ program => "missing required command: " ++ program
  | .spawn _ program error => "failed to run " ++ program ++ ": " ++ error.text
  | .stageFailed stage exit => stage.title ++ " failed: " ++ exit.text
  | .interrupted stage signal => stage.title ++ " interrupted by " ++ signal.text
  | .system error => "IO error: " ++ error.text

/-- The stage's own process has already said what went wrong. -/
def isReportedByChild : Failure → Bool
  | .stageFailed .. => true
  | _ => false

def isInterrupted : Failure → Bool
  | .interrupted .. => true
  | _ => false

def stage? : Failure → Option Stage
  | .emptyWorkload => none
  | .missingCommand stage _ => some stage
  | .spawn stage _ _ => some stage
  | .stageFailed stage _ => some stage
  | .interrupted stage _ => some stage
  | .system _ => none

def cause? : Failure → Option SystemError
  | .spawn _ _ error => some error
  | .system error => some error
  | _ => none

end Failure

abbrev Outcome := Except Failure Exit

end ProfiledBuild
