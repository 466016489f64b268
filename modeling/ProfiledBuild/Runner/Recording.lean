import ProfiledBuild.Pipeline

/-! A runner for rehearsals. It runs nothing, answers as it has been told to, stage by stage, and
keeps every command that it was given. Errors win over exits. -/

namespace ProfiledBuild

structure Recording where
  exits : Stage → Option Exit
  errors : Stage → Option (StageCommand → Failure)
  commands : List StageCommand

namespace Recording

/-- Told nothing: every command succeeds. -/
def untold : Recording := ⟨fun _ => none, fun _ => none, []⟩

instance : Inhabited Recording := ⟨untold⟩

def withExit (r : Recording) (stage : Stage) (exit : Exit) : Recording :=
  { r with exits := fun s => if s = stage then some exit else r.exits s }

def withError (r : Recording) (stage : Stage) (failure : StageCommand → Failure) : Recording :=
  { r with errors := fun s => if s = stage then some failure else r.errors s }

/-- The program of a stage is not there. -/
def withMissing (r : Recording) (stage : Stage) : Recording :=
  r.withError stage fun c => .missingCommand c.stage c.programName

def outcome (r : Recording) (c : StageCommand) : Outcome :=
  match r.errors c.stage with
  | some failure => .error (failure c)
  | none => .ok ((r.exits c.stage).getD (.code 0))

/-- Every command is kept, those that are answered with an error too. -/
def run : Runner Recording := fun r c =>
  { outcome := r.outcome c, log := [], state := { r with commands := r.commands ++ [c] } }

def commandLines (r : Recording) : List String := r.commands.map (·.display)

def stages (r : Recording) : List Stage := r.commands.map (·.stage)

def callCount (r : Recording) : Nat := r.commands.length

def stageWord : Stage → String
  | .instrumentedBuild => "InstrumentedBuild"
  | .profilingRun => "ProfilingRun"
  | .optimizedBuild => "OptimizedBuild"

def exitWord : Exit → String
  | .code value => "Code(" ++ toString value.toInt ++ ")"
  | .signal number => "Signal(" ++ toString number.toInt ++ ")"

def describe (r : Recording) : String :=
  let exits := Stage.all.filterMap fun s =>
    (r.exits s).map fun e => stageWord s ++ ": " ++ exitWord e
  let errors := (Stage.all.filter fun s => (r.errors s).isSome).map stageWord
  "RecordingRunner \x7b exits: \x7b" ++ ", ".intercalate exits ++ "\x7d, errors: [" ++
    ", ".intercalate errors ++ "], calls: " ++ toString r.callCount ++ " \x7d"

end Recording

end ProfiledBuild
