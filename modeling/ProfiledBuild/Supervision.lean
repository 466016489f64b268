import ProfiledBuild.Runner.Process

/-! The driver and the processes it starts, as they go on side by side. A process may end at any
moment, and so may a signal arrive. When an ended process and a signal both wait for the driver, it
may turn to either of them first; what it has not turned to by then is lost. -/

namespace ProfiledBuild.Supervision

/-- A process that has ended is kept until the driver reaps it. -/
inductive Child where
  | running
  | ended (status : Int32)
  | reaped (status : Int32)
  deriving DecidableEq, Repr

namespace Child

/-- A killed process ends by signal 9; one that has ended already is left as it is. -/
def kill : Child → Child
  | .running => .ended 9
  | child => child

def isUnreaped : Child → Bool
  | .reaped _ => false
  | _ => true

end Child

/-- Where the driver stands. While it watches a process, signals queue up for it. -/
inductive Driver where
  | ready
  | watching (stage : Stage) (signals : List ShutdownSignal)
  | stopping (stage : Stage) (signal : ShutdownSignal)
  | returned (failure : Option Failure)
  deriving DecidableEq

namespace Driver

def isWatching : Driver → Bool
  | .watching .. => true
  | _ => false

end Driver

/-- The driver, the stages still to come, all processes that were started and all that has been
recorded, the newest first. -/
structure State where
  driver : Driver
  waiting : List Stage
  children : List Child
  record : List (Stage × Happening)
  deriving DecidableEq

namespace State

def initial : State := ⟨.ready, Stage.all, [], []⟩

/-- What has happened to a stage's command is recorded. The driver goes on if it was a success. -/
def settle (command : Stage → StageCommand) (stage : Stage) (happening : Happening)
    (waiting : List Stage) (children : List Child) (record : List (Stage × Happening)) : State where
  driver :=
    match Pipeline.failureOf stage (happening.outcome (command stage)) with
    | none => .ready
    | some failure => .returned (some failure)
  waiting := waiting
  children := children
  record := (stage, happening) :: record

def unreaped (s : State) : List Child := s.children.filter (·.isUnreaped)

end State

/-- One step of the driver or of its surroundings. A process is known by the number of those
started before it and itself. -/
inductive Step (command : Stage → StageCommand) : State → State → Prop where
  | startFails (stage : Stage) (waiting : List Stage) (children : List Child)
      (record : List (Stage × Happening)) (error : SystemError) :
      Step command ⟨.ready, stage :: waiting, children, record⟩
        (.settle command stage (.notStarted error) waiting children record)
  | start (stage : Stage) (waiting : List Stage) (children : List Child)
      (record : List (Stage × Happening)) :
      Step command ⟨.ready, stage :: waiting, children, record⟩
        ⟨.watching stage [], waiting, .running :: children, record⟩
  | childEnds (driver : Driver) (waiting : List Stage) (newer older : List Child)
      (record : List (Stage × Happening)) (status : Int32) :
      Step command ⟨driver, waiting, newer ++ .running :: older, record⟩
        ⟨driver, waiting, newer ++ .ended status :: older, record⟩
  | signalArrives (stage : Stage) (signals : List ShutdownSignal) (waiting : List Stage)
      (children : List Child) (record : List (Stage × Happening)) (signal : ShutdownSignal) :
      Step command ⟨.watching stage signals, waiting, children, record⟩
        ⟨.watching stage (signals ++ [signal]), waiting, children, record⟩
  | signalUnheard (s : State) (h : s.driver.isWatching = false) : Step command s s
  | noticeEnd (stage : Stage) (signals : List ShutdownSignal) (waiting : List Stage)
      (older : List Child) (record : List (Stage × Happening)) (status : Int32) :
      Step command ⟨.watching stage signals, waiting, .ended status :: older, record⟩
        (.settle command stage (.ended (older.length + 1) status) waiting
          (.reaped status :: older) record)
  | noticeSignal (stage : Stage) (signals : List ShutdownSignal) (waiting : List Stage)
      (child : Child) (older : List Child) (record : List (Stage × Happening))
      (signal : ShutdownSignal) (h : signal ∈ signals) :
      Step command ⟨.watching stage signals, waiting, child :: older, record⟩
        ⟨.stopping stage signal, waiting, child.kill :: older, record⟩
  | reap (stage : Stage) (signal : ShutdownSignal) (waiting : List Stage) (older : List Child)
      (record : List (Stage × Happening)) (status : Int32) :
      Step command ⟨.stopping stage signal, waiting, .ended status :: older, record⟩
        (.settle command stage (.signalled (older.length + 1) signal) waiting
          (.reaped status :: older) record)
  | finish (children : List Child) (record : List (Stage × Happening)) :
      Step command ⟨.ready, [], children, record⟩ ⟨.returned none, [], children, record⟩

inductive Reachable (command : Stage → StageCommand) (s : State) : State → Prop where
  | refl : Reachable command s s
  | tail {t u : State} : Reachable command s t → Step command t u → Reachable command s u

/-- What holds at the start and is kept by every step holds wherever the steps lead. -/
theorem Reachable.invariant {command : Stage → StageCommand} {s t : State} {p : State → Prop}
    (h : Reachable command s t) (hs : p s) (hp : ∀ u v, p u → Step command u v → p v) : p t := by
  induction h with
  | refl => exact hs
  | tail _ step ih => exact hp _ _ ih step

end ProfiledBuild.Supervision
