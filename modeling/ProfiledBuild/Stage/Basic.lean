/-! The three stages of a profile-guided build, how a stage ends, and where a run of them stands.
The stages come strictly one after another. -/

namespace ProfiledBuild

inductive Stage where
  | instrumentedBuild
  | profilingRun
  | optimizedBuild
  deriving DecidableEq, Repr, Inhabited

namespace Stage

def all : List Stage := [.instrumentedBuild, .profilingRun, .optimizedBuild]

def name : Stage → String
  | .instrumentedBuild => "instrumented_build"
  | .profilingRun => "profiling_run"
  | .optimizedBuild => "optimized_build"

def title : Stage → String
  | .instrumentedBuild => "instrumented-build"
  | .profilingRun => "profiling-run"
  | .optimizedBuild => "optimized-build"

def named : List (String × Stage) := all.map fun s => (s.name, s)

end Stage

/-- How a stage ended. A stage that was interrupted is cancelled. -/
inductive StageStatus where
  | ok
  | fail
  | cancel
  deriving DecidableEq, Repr, Inhabited

namespace StageStatus

def all : List StageStatus := [.ok, .fail, .cancel]

def name : StageStatus → String
  | .ok => "ok"
  | .fail => "fail"
  | .cancel => "cancel"

def named : List (String × StageStatus) := all.map fun s => (s.name, s)

def isSuccess (s : StageStatus) : Bool := s = .ok

end StageStatus

inductive RunState where
  | start
  | running (stage : Stage)
  | done
  | failed
  deriving DecidableEq, Repr, Inhabited

namespace RunState

def all : List RunState := .start :: Stage.all.map .running ++ [.done, .failed]

def stage? : RunState → Option Stage
  | .running stage => some stage
  | _ => none

def name : RunState → String
  | .start => "start"
  | .running stage => stage.name
  | .done => "done"
  | .failed => "failed"

def title : RunState → String
  | .running stage => stage.title
  | state => state.name

def named : List (String × RunState) := all.map fun s => (s.name, s)

def advance : RunState → RunState
  | .start => .running .instrumentedBuild
  | .running .instrumentedBuild => .running .profilingRun
  | .running .profilingRun => .running .optimizedBuild
  | .running .optimizedBuild => .done
  | .done => .done
  | .failed => .failed

def fail : RunState → RunState
  | .done => .done
  | _ => .failed

def isTerminal (state : RunState) : Bool := state = .done || state = .failed

def remaining : RunState → Nat
  | .start => 4
  | .running .instrumentedBuild => 3
  | .running .profilingRun => 2
  | .running .optimizedBuild => 1
  | .done => 0
  | .failed => 0

theorem remaining_advance_lt {state : RunState} (h : state.isTerminal = false) :
    state.advance.remaining < state.remaining := by
  match state with
  | .start => decide
  | .running .instrumentedBuild => decide
  | .running .profilingRun => decide
  | .running .optimizedBuild => decide
  | .done => simp [isTerminal] at h
  | .failed => simp [isTerminal] at h

/-- Advances until a stage runs. A stage that has been left is not entered again. -/
def enter (stage : Stage) (state : RunState) : RunState :=
  if state = .running stage ∨ state.isTerminal then state
  else enter stage state.advance
termination_by state.remaining
decreasing_by
  rename_i h
  exact remaining_advance_lt (by simpa using (not_or.mp h).2)

end RunState

end ProfiledBuild
