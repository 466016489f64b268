import ProfiledBuild.Config
import ProfiledBuild.Notice
import ProfiledBuild.Run

/-! The pipeline. It runs the three stages in order, one command at a time, and stops at the first
one that does not succeed. What a run tells the outside is a list of notices; the runner and the
clock are parameters. -/

namespace ProfiledBuild

/-- What a runner answers: how the command ended, what reached the error stream meanwhile, and the
runner's next state. -/
structure Answer (σ : Type) where
  outcome : Outcome
  log : List Log.Entry
  state : σ

/-- Runs one command at a time. An answer may depend on everything that went before. -/
abbrev Runner (σ : Type) := σ → StageCommand → Answer σ

abbrev Clock := Nat → Timestamp

structure Pipeline (σ : Type) where
  config : Config
  sink : Sink
  runner : Runner σ
  clock : Clock

/-- A run under way: its record, the notices so far, the runner's state, and the number of clock
readings taken. -/
structure Progress (σ : Type) where
  run : Run
  notices : List Notice
  runner : σ
  ticks : Nat

namespace Progress

def note (g : Progress σ) (notice : Notice) : Progress σ :=
  { g with notices := g.notices ++ [notice] }

def log (g : Progress σ) (level : Log.Level) (message : String) (fields : Log.Fields) :
    Progress σ :=
  g.note (.log (.record (.ofMessage level "aprs_pgo::pipeline" message fields)))

def emit (clock : Clock) (g : Progress σ) (event : Timestamp → Event) : Progress σ :=
  { g with notices := g.notices ++ [.event (event (clock g.ticks))], ticks := g.ticks + 1 }

end Progress

namespace Pipeline

/-- The failure, if any, that a stage's outcome means for the run. -/
def failureOf (stage : Stage) : Outcome → Option Failure
  | .ok exit => if exit.succeeded then none else some (.stageFailed stage exit)
  | .error failure => some failure

def announce (p : Pipeline σ) (command : StageCommand) (g : Progress σ) : Progress σ :=
  let g := { g with run := g.run.enter command.stage }
  let g := g.log .info "starting stage"
    [("stage", .shown command.stage.title), ("command", .shown command.display)]
  g.emit p.clock (Event.stageStarted command.stage command.display)

def invoke (p : Pipeline σ) (command : StageCommand) (g : Progress σ) :
    Outcome × StageResult × Progress σ :=
  let answer := p.runner g.runner command
  let result := StageResult.ofOutcome command (p.clock g.ticks) (p.clock (g.ticks + 1))
    answer.outcome
  (answer.outcome, result, {
    run := g.run.record result
    notices := g.notices ++ answer.log.map .log
    runner := answer.state
    ticks := g.ticks + 2 })

def reportSuccess (p : Pipeline σ) (result : StageResult) (g : Progress σ) : Progress σ :=
  let g := g.log .info "stage completed"
    [("stage", .shown result.stage.title), ("duration_ms", .float result.durationMs)]
  g.emit p.clock (Event.stageCompleted result.stage result.durationMs)

def reportFailure (p : Pipeline σ) (stage : Stage) (failure : Failure) (g : Progress σ) :
    Progress σ :=
  g.emit p.clock (Event.stageFailed stage failure.message failure.exitCode)

def runStage (p : Pipeline σ) (stage : Stage) (g : Progress σ) : Option Failure × Progress σ :=
  let command := p.config.commandFor g.run.workload stage
  let (outcome, result, g) := p.invoke command (p.announce command g)
  match failureOf stage outcome with
  | none => (none, p.reportSuccess result g)
  | some failure => (some failure, p.reportFailure stage failure g)

def afterStage (stage : Stage) (g : Progress σ) : Progress σ :=
  if stage = .instrumentedBuild then
    g.log .debug "profiles are written by the instrumented binary"
      [("profile_dir", .plain Config.profileDirectory)]
  else g

def runStages (p : Pipeline σ) : List Stage → Progress σ → Option Failure × Progress σ
  | [], g => (none, g)
  | stage :: rest, g =>
    match p.runStage stage g with
    | (some failure, g) => (some failure, g)
    | (none, g) => p.runStages rest (afterStage stage g)

def complete (p : Pipeline σ) (g : Progress σ) : Progress σ :=
  let now := p.clock g.ticks
  let g := { g with run := g.run.finish now, ticks := g.ticks + 1 }
  let g := g.log .info "pipeline completed" [("summary", .shown (g.run.summary now).text)]
  g.emit p.clock (Event.pipelineCompleted g.run.id.text (g.run.durationMs now))

/-- Closes a run that has failed. What the stage's own process has reported is no error here. -/
def abandon (p : Pipeline σ) (failure : Failure) (g : Progress σ) : Progress σ :=
  let code := failure.exitCode
  let g :=
    if failure.isReportedByChild then
      g.log .info "pipeline stopped"
        [("error", .shown failure.message), ("exit_code", .int code.toInt)]
    else g.log .error failure.message [("exit_code", .int code.toInt)]
  let now := p.clock g.ticks
  let g := { g with run := g.run.fail failure now, ticks := g.ticks + 1 }
  let g := g.log .debug "pipeline failed" [("summary", .shown (g.run.summary now).text)]
  g.emit p.clock (Event.pipelineFailed g.run.id.text code)

/-- A whole run on a workload, from the runner's state and the clock reading given. -/
def run (p : Pipeline σ) (workload : Workload) (id : RunId) (runner : σ) (ticks : Nat) :
    Progress σ :=
  let g : Progress σ := {
    run := Run.ofWorkload workload id (p.clock ticks)
    notices := []
    runner := runner
    ticks := ticks + 1 }
  let g := g.emit p.clock (Event.pipelineStarted id.text workload.display)
  match p.runStages Stage.all g with
  | (none, g) => p.complete g
  | (some failure, g) => p.abandon failure g

def span (r : Run) : Log.Span where
  level := .info
  target := "aprs_pgo::pipeline"
  name := "pgo_pipeline"
  fields := [("run_id", .shown r.id.text), ("workload", .shown r.workload.display)]

def log (p : Pipeline σ) (g : Progress σ) : List Log.Entry :=
  (g.notices.flatMap p.sink.entries).map (·.inside (span g.run))

def events (p : Pipeline σ) (g : Progress σ) : List Event :=
  g.notices.flatMap p.sink.kept

/-- Runs on several workloads, one after another. The runner and the clock go on from run to
run. -/
def runAll (p : Pipeline σ) : List (Workload × RunId) → σ → Nat → List (Progress σ)
  | [], _, _ => []
  | (workload, id) :: rest, runner, ticks =>
    let g := p.run workload id runner ticks
    g :: p.runAll rest g.runner g.ticks

end Pipeline

end ProfiledBuild
