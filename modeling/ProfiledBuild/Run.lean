import ProfiledBuild.RunId
import ProfiledBuild.Stage.Result
import ProfiledBuild.Workload

/-! The record of one run of the pipeline. -/

namespace ProfiledBuild

structure Run where
  id : RunId
  workload : Workload
  state : RunState
  results : List StageResult
  failure : Option Failure
  startedAt : Timestamp
  endedAt : Option Timestamp
  deriving DecidableEq

namespace Run

def ofWorkload (workload : Workload) (id : RunId) (now : Timestamp) : Run where
  id := id
  workload := workload
  state := .start
  results := []
  failure := none
  startedAt := now
  endedAt := none

def invokedStages (r : Run) : List Stage := r.results.map (·.stage)

def isSuccess (r : Run) : Bool := r.state = .done

/-- A run that is done counts as successful whatever else it holds. -/
def exitCode (r : Run) : Int32 :=
  match r.state, r.failure with
  | .done, _ => 0
  | _, some failure => failure.exitCode
  | _, none => 1

/-- The status octet of a process that ends with a code. What does not fit is an error. -/
def statusOctet (code : Int32) : UInt8 :=
  if 0 ≤ code ∧ code ≤ 255 then UInt8.ofNat code.toNatClampNeg else 1

/-- Whole milliseconds from the start to the end, or to `now` if the run goes on. -/
def durationMs (r : Run) (now : Timestamp) : Float :=
  Float.ofInt ((r.endedAt.getD now).millisecondsSince r.startedAt)

def summary (r : Run) (now : Timestamp) : Json :=
  Json.ofFields [
    ("run_id", .string r.id.text),
    ("workload", .string r.workload.display),
    ("state", .string r.state.name),
    ("exit_code", Json.int r.exitCode.toInt),
    ("duration_ms", Json.float (r.durationMs now)),
    ("stages", .array (r.results.map (·.toJson)))]

def enter (r : Run) (stage : Stage) : Run := { r with state := r.state.enter stage }

def record (r : Run) (result : StageResult) : Run :=
  { r with results := r.results ++ [result] }

def finish (r : Run) (now : Timestamp) : Run :=
  { r with state := r.state.advance, endedAt := some now }

def fail (r : Run) (failure : Failure) (now : Timestamp) : Run :=
  { r with state := r.state.fail, failure := some failure, endedAt := some now }

end Run

end ProfiledBuild
