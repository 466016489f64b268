import ProfiledBuild.Pipeline

/-! A run as a list of visits, one for each stage that it comes to. The visits are read off the
runner's answers alone; what a run records, reports and counts is then read off the visits. -/

namespace ProfiledBuild

/-- The command of one stage, the clock readings taken before it, and the answer it got. -/
structure Visit (σ : Type) where
  command : StageCommand
  ticks : Nat
  answer : Answer σ

namespace Visit

def outcome (v : Visit σ) : Outcome := v.answer.outcome

def failure (v : Visit σ) : Option Failure := Pipeline.failureOf v.command.stage v.outcome

/-- The command is timed between the announcement of its stage and the report on it. -/
def result (clock : Clock) (v : Visit σ) : StageResult :=
  StageResult.ofOutcome v.command (clock (v.ticks + 1)) (clock (v.ticks + 2)) v.outcome

def closing (clock : Clock) (v : Visit σ) : Event :=
  match v.failure with
  | none =>
    Event.stageCompleted v.command.stage (v.result clock).durationMs (clock (v.ticks + 3))
  | some failure =>
    Event.stageFailed v.command.stage failure.message failure.exitCode (clock (v.ticks + 3))

def events (clock : Clock) (v : Visit σ) : List Event :=
  [Event.stageStarted v.command.stage v.command.display (clock v.ticks), v.closing clock]

/-- The clock readings that a stage takes: one for each of its events and two for its command. -/
def readings : Nat := 4

end Visit

namespace Progress

def events (g : Progress σ) : List Event := g.notices.filterMap Notice.event?

@[simp] theorem events_log (g : Progress σ) (level : Log.Level) (message : String)
    (fields : Log.Fields) : (g.log level message fields).events = g.events := by
  simp [events, log, note, Notice.event?, List.filterMap_append]

@[simp] theorem events_emit (clock : Clock) (g : Progress σ) (event : Timestamp → Event) :
    (g.emit clock event).events = g.events ++ [event (clock g.ticks)] := by
  simp [events, emit, Notice.event?, List.filterMap_append]

end Progress

@[simp] theorem Config.commandFor_stage (c : Config) (w : Workload) (stage : Stage) :
    (c.commandFor w stage).stage = stage := by
  cases stage <;> rfl

theorem Config.stages_plan (c : Config) (w : Workload) :
    (c.plan w).map StageCommand.stage = Stage.all := by
  rw [plan, List.map_map]
  exact (List.map_congr_left fun stage _ => c.commandFor_stage w stage).trans (List.map_id _)

def RunState.enterAll (state : RunState) (stages : List Stage) : RunState :=
  stages.foldl (fun state stage => state.enter stage) state

def Run.visit (r : Run) (result : StageResult) : Run := (r.enter result.stage).record result

@[simp] theorem Run.workload_visit (r : Run) (result : StageResult) :
    (r.visit result).workload = r.workload := rfl

namespace Pipeline

theorem failureOf_eq_none_iff {stage : Stage} {outcome : Outcome} :
    failureOf stage outcome = none ↔ outcome = .ok (.code 0) := by
  cases outcome with
  | error failure => simp [failureOf]
  | ok exit => simp [failureOf, Exit.succeeded]

end Pipeline

theorem Visit.failure_eq_none_iff {v : Visit σ} : v.failure = none ↔ v.outcome = .ok (.code 0) :=
  Pipeline.failureOf_eq_none_iff

namespace Pipeline

variable (p : Pipeline σ)

def visit (w : Workload) (stage : Stage) (s : σ) (ticks : Nat) : Visit σ where
  command := p.config.commandFor w stage
  ticks := ticks
  answer := p.runner s (p.config.commandFor w stage)

def visits (w : Workload) : List Stage → σ → Nat → List (Visit σ)
  | [], _, _ => []
  | stage :: rest, s, ticks =>
    let v := p.visit w stage s ticks
    v :: if v.failure = none then visits w rest v.answer.state (ticks + Visit.readings) else []

theorem visits_of_failure {w : Workload} {stage : Stage} {s : σ} {ticks : Nat} (rest : List Stage)
    {failure : Failure} (h : (p.visit w stage s ticks).failure = some failure) :
    p.visits w (stage :: rest) s ticks = [p.visit w stage s ticks] := by
  simp [visits, h]

theorem visits_of_success {w : Workload} {stage : Stage} {s : σ} {ticks : Nat} (rest : List Stage)
    (h : (p.visit w stage s ticks).failure = none) :
    p.visits w (stage :: rest) s ticks = p.visit w stage s ticks ::
      p.visits w rest (p.visit w stage s ticks).answer.state (ticks + Visit.readings) := by
  simp [visits, h]

theorem failure_visit (w : Workload) (stage : Stage) (s : σ) (ticks : Nat) :
    (p.visit w stage s ticks).failure =
      failureOf stage (p.visit w stage s ticks).outcome := by
  rw [Visit.failure, show (p.visit w stage s ticks).command.stage = stage from
    Config.commandFor_stage _ _ _]

theorem events_announce (command : StageCommand) (g : Progress σ) :
    (p.announce command g).events =
      g.events ++ [Event.stageStarted command.stage command.display (p.clock g.ticks)] := by
  simp only [announce, Progress.events_emit, Progress.events_log]
  rfl

theorem events_invoke (command : StageCommand) (g : Progress σ) :
    (p.invoke command g).2.2.events = g.events := by
  simp [invoke, Progress.events, List.filterMap_append, List.filterMap_map, Notice.event?]

theorem events_reportSuccess (result : StageResult) (g : Progress σ) :
    (p.reportSuccess result g).events = g.events ++
      [Event.stageCompleted result.stage result.durationMs (p.clock g.ticks)] := by
  simp only [reportSuccess, Progress.events_emit, Progress.events_log]
  rfl

theorem events_reportFailure (stage : Stage) (failure : Failure) (g : Progress σ) :
    (p.reportFailure stage failure g).events = g.events ++
      [Event.stageFailed stage failure.message failure.exitCode (p.clock g.ticks)] :=
  Progress.events_emit p.clock g _

theorem runStage_eq (stage : Stage) (g : Progress σ) :
    let v := p.visit g.run.workload stage g.runner g.ticks
    let after := (p.invoke v.command (p.announce v.command g)).2.2
    p.runStage stage g = match v.failure with
      | none => (none, p.reportSuccess (v.result p.clock) after)
      | some failure => (some failure, p.reportFailure stage failure after) := by
  intro v after
  rw [show v.failure = _ from p.failure_visit g.run.workload stage g.runner g.ticks]
  rfl

theorem runStage_failure (stage : Stage) (g : Progress σ) :
    (p.runStage stage g).1 = (p.visit g.run.workload stage g.runner g.ticks).failure := by
  rw [runStage_eq]
  cases (p.visit g.run.workload stage g.runner g.ticks).failure <;> rfl

theorem run_runStage (stage : Stage) (g : Progress σ) :
    (p.runStage stage g).2.run =
      g.run.visit ((p.visit g.run.workload stage g.runner g.ticks).result p.clock) := by
  rw [runStage_eq]
  cases (p.visit g.run.workload stage g.runner g.ticks).failure <;> rfl

theorem runner_runStage (stage : Stage) (g : Progress σ) :
    (p.runStage stage g).2.runner =
      (p.visit g.run.workload stage g.runner g.ticks).answer.state := by
  rw [runStage_eq]
  cases (p.visit g.run.workload stage g.runner g.ticks).failure <;> rfl

theorem ticks_runStage (stage : Stage) (g : Progress σ) :
    (p.runStage stage g).2.ticks = g.ticks + Visit.readings := by
  rw [runStage_eq]
  cases (p.visit g.run.workload stage g.runner g.ticks).failure <;> rfl

theorem events_runStage (stage : Stage) (g : Progress σ) :
    (p.runStage stage g).2.events =
      g.events ++ (p.visit g.run.workload stage g.runner g.ticks).events p.clock := by
  have hstage : (p.visit g.run.workload stage g.runner g.ticks).command.stage = stage :=
    p.config.commandFor_stage g.run.workload stage
  rw [runStage_eq, Visit.events, Visit.closing]
  cases (p.visit g.run.workload stage g.runner g.ticks).failure with
  | none =>
    rw [events_reportSuccess, events_invoke, events_announce, List.append_assoc]
    rfl
  | some failure =>
    rw [events_reportFailure, events_invoke, events_announce, List.append_assoc, hstage]
    rfl

theorem afterStage_eq (stage : Stage) (g : Progress σ) :
    (afterStage stage g).run = g.run ∧ (afterStage stage g).runner = g.runner ∧
      (afterStage stage g).ticks = g.ticks ∧ (afterStage stage g).events = g.events := by
  by_cases h : stage = .instrumentedBuild
  · rw [afterStage, if_pos h, Progress.events_log]
    exact ⟨rfl, rfl, rfl, rfl⟩
  · rw [afterStage, if_neg h]
    exact ⟨rfl, rfl, rfl, rfl⟩

def stop (vs : List (Visit σ)) : Option Failure := vs.findSome? Visit.failure

theorem runStages_of_failure {stage : Stage} {g : Progress σ} {failure : Failure}
    (rest : List Stage) (h : (p.runStage stage g).1 = some failure) :
    p.runStages (stage :: rest) g = (some failure, (p.runStage stage g).2) := by
  rcases hg : p.runStage stage g with ⟨f, g'⟩
  rw [hg] at h
  subst h
  simp only [runStages, hg]

theorem runStages_of_success {stage : Stage} {g : Progress σ} (rest : List Stage)
    (h : (p.runStage stage g).1 = none) :
    p.runStages (stage :: rest) g = p.runStages rest (afterStage stage (p.runStage stage g).2) := by
  rcases hg : p.runStage stage g with ⟨f, g'⟩
  rw [hg] at h
  subst h
  simp only [runStages, hg]

/-- The runner's state after some visits. -/
def stateAfter (s : σ) (vs : List (Visit σ)) : σ := vs.foldl (fun _ v => v.answer.state) s

theorem runStages_spec (stages : List Stage) (g : Progress σ) :
    let vs := p.visits g.run.workload stages g.runner g.ticks
    (p.runStages stages g).1 = stop vs ∧
      (p.runStages stages g).2.run = (vs.map (Visit.result p.clock)).foldl Run.visit g.run ∧
      (p.runStages stages g).2.runner = stateAfter g.runner vs ∧
      (p.runStages stages g).2.ticks = g.ticks + Visit.readings * vs.length ∧
      (p.runStages stages g).2.events = g.events ++ vs.flatMap (Visit.events p.clock) := by
  induction stages generalizing g with
  | nil => simp [runStages, visits, stop, stateAfter]
  | cons stage rest ih =>
    have hfailure := p.runStage_failure stage g
    have hrun := p.run_runStage stage g
    have hrunner := p.runner_runStage stage g
    have hticks := p.ticks_runStage stage g
    have hevents := p.events_runStage stage g
    cases hf : (p.runStage stage g).1 with
    | some failure =>
      rw [hf] at hfailure
      rw [p.runStages_of_failure rest hf, p.visits_of_failure rest hfailure.symm]
      refine ⟨?_, hrun, hrunner, hticks, by simpa using hevents⟩
      simp [stop, ← hfailure]
    | none =>
      rw [hf] at hfailure
      rw [p.runStages_of_success rest hf, p.visits_of_success rest hfailure.symm]
      obtain ⟨harun, harunner, haticks, haevents⟩ := afterStage_eq stage (p.runStage stage g).2
      obtain ⟨hstop, hr, hs, ht, he⟩ := ih (afterStage stage (p.runStage stage g).2)
      rw [harun, harunner, haticks, hrun, hrunner, hticks, Run.workload_visit] at hstop hr hs ht
      rw [harun, harunner, haticks, haevents, hrun, hrunner, hticks, hevents,
        Run.workload_visit] at he
      refine ⟨?_, hr, hs, ?_, ?_⟩
      · rw [hstop, stop, stop, List.findSome?_cons, ← hfailure]
      · rw [ht, List.length_cons, Nat.mul_succ, Nat.add_assoc, Nat.add_comm Visit.readings]
      · rw [he, List.flatMap_cons, List.append_assoc]

theorem run_complete (g : Progress σ) :
    (p.complete g).run = g.run.finish (p.clock g.ticks) := rfl

theorem events_complete (g : Progress σ) :
    (p.complete g).events = g.events ++ [Event.pipelineCompleted g.run.id.text
      ((g.run.finish (p.clock g.ticks)).durationMs (p.clock g.ticks)) (p.clock (g.ticks + 1))] := by
  simp only [complete, Progress.events_emit, Progress.events_log]
  rfl

theorem run_abandon (failure : Failure) (g : Progress σ) :
    (p.abandon failure g).run = g.run.fail failure (p.clock g.ticks) := by
  cases h : failure.isReportedByChild <;> simp [abandon, h] <;> rfl

theorem runner_abandon (failure : Failure) (g : Progress σ) :
    (p.abandon failure g).runner = g.runner := by
  cases h : failure.isReportedByChild <;> simp [abandon, h] <;> rfl

theorem events_abandon (failure : Failure) (g : Progress σ) :
    (p.abandon failure g).events = g.events ++
      [Event.pipelineFailed g.run.id.text failure.exitCode (p.clock (g.ticks + 1))] := by
  cases h : failure.isReportedByChild with
  | false =>
    simp only [abandon, h, Bool.false_eq_true, if_false, Progress.events_emit, Progress.events_log]
    change (g.log _ _ _).events ++ _ = _
    rw [Progress.events_log]
    rfl
  | true =>
    simp only [abandon, h, if_true, Progress.events_emit, Progress.events_log]
    change (g.log _ _ _).events ++ _ = _
    rw [Progress.events_log]
    rfl

/-- The visits of a whole run. Before them the clock is read for the start of the run and for its
first event. -/
def allVisits (w : Workload) (s : σ) (ticks : Nat) : List (Visit σ) :=
  p.visits w Stage.all s (ticks + 2)

def reached (w : Workload) (id : RunId) (s : σ) (ticks : Nat) : Run :=
  ((p.allVisits w s ticks).map (Visit.result p.clock)).foldl Run.visit
    (Run.ofWorkload w id (p.clock ticks))

def ticksAtEnd (w : Workload) (s : σ) (ticks : Nat) : Nat :=
  ticks + 2 + Visit.readings * (p.allVisits w s ticks).length

def closed (w : Workload) (id : RunId) (s : σ) (ticks : Nat) : Run :=
  match stop (p.allVisits w s ticks) with
  | none => (p.reached w id s ticks).finish (p.clock (p.ticksAtEnd w s ticks))
  | some failure => (p.reached w id s ticks).fail failure (p.clock (p.ticksAtEnd w s ticks))

def closing (w : Workload) (id : RunId) (s : σ) (ticks : Nat) : Event :=
  let now := p.clock (p.ticksAtEnd w s ticks + 1)
  match stop (p.allVisits w s ticks) with
  | none => Event.pipelineCompleted id.text
      ((p.closed w id s ticks).durationMs (p.clock (p.ticksAtEnd w s ticks))) now
  | some failure => Event.pipelineFailed id.text failure.exitCode now

theorem foldl_visit_eq (results : List StageResult) (r : Run) :
    results.foldl Run.visit r =
      { r with
        state := r.state.enterAll (results.map (·.stage))
        results := r.results ++ results } := by
  induction results generalizing r with
  | nil => simp [RunState.enterAll]
  | cons result rest ih => simp [ih, Run.visit, Run.enter, Run.record, RunState.enterAll]

def opened (w : Workload) (id : RunId) (s : σ) (ticks : Nat) : Progress σ :=
  Progress.emit p.clock
    { run := Run.ofWorkload w id (p.clock ticks), notices := [], runner := s, ticks := ticks + 1 }
    (Event.pipelineStarted id.text w.display)

theorem run_eq (w : Workload) (id : RunId) (s : σ) (ticks : Nat) :
    p.run w id s ticks =
      match p.runStages Stage.all (p.opened w id s ticks) with
      | (none, g) => p.complete g
      | (some failure, g) => p.abandon failure g := rfl

theorem run_spec (w : Workload) (id : RunId) (s : σ) (ticks : Nat) :
    (p.run w id s ticks).run = p.closed w id s ticks ∧
      (p.run w id s ticks).events =
        Event.pipelineStarted id.text w.display (p.clock (ticks + 1)) ::
          (p.allVisits w s ticks).flatMap (Visit.events p.clock) ++ [p.closing w id s ticks] := by
  obtain ⟨hf, hr, -, ht, he⟩ := p.runStages_spec Stage.all (p.opened w id s ticks)
  rw [run_eq]
  rcases hg : p.runStages Stage.all (p.opened w id s ticks) with ⟨failure, g'⟩
  simp only [hg] at hf hr ht he
  have hid : g'.run.id = id := by rw [hr, foldl_visit_eq]; rfl
  change failure = stop (p.allVisits w s ticks) at hf
  change g'.run = p.reached w id s ticks at hr
  change g'.ticks = p.ticksAtEnd w s ticks at ht
  change g'.events = _ :: (p.allVisits w s ticks).flatMap (Visit.events p.clock) at he
  cases failure with
  | none =>
    simp only [closed, closing, ← hf]
    rw [run_complete, events_complete, he, hid, hr, ht]
    exact ⟨rfl, rfl⟩
  | some failure =>
    simp only [closed, closing, ← hf]
    rw [run_abandon, events_abandon, he, hid, hr, ht]
    exact ⟨rfl, rfl⟩

theorem runner_run (w : Workload) (id : RunId) (s : σ) (ticks : Nat) :
    (p.run w id s ticks).runner = stateAfter s (p.allVisits w s ticks) := by
  obtain ⟨-, -, hrunner, -⟩ := p.runStages_spec Stage.all (p.opened w id s ticks)
  change _ = stateAfter s (p.allVisits w s ticks) at hrunner
  rw [run_eq, ← hrunner]
  rcases p.runStages Stage.all (p.opened w id s ticks) with ⟨failure, g⟩
  cases failure with
  | none => rfl
  | some failure => exact p.runner_abandon failure g

section

variable {motive : σ → Prop} (hstep : ∀ s command, motive s → motive (p.runner s command).state)
include hstep

theorem stateAfter_visits_of_step (w : Workload) (stages : List Stage) {s : σ} (hs : motive s)
    (ticks : Nat) : motive (stateAfter s (p.visits w stages s ticks)) := by
  induction stages generalizing s ticks with
  | nil => exact hs
  | cons stage rest ih =>
    have hnext : motive (p.visit w stage s ticks).answer.state := hstep s _ hs
    cases hf : (p.visit w stage s ticks).failure with
    | some failure =>
      rw [p.visits_of_failure rest hf]
      exact hnext
    | none =>
      rw [p.visits_of_success rest hf]
      exact ih hnext _

/-- What every call leaves true of a runner's state is true of it after a run. -/
theorem runner_run_of_step (w : Workload) (id : RunId) {s : σ} (hs : motive s) (ticks : Nat) :
    motive (p.run w id s ticks).runner := by
  rw [runner_run]
  exact p.stateAfter_visits_of_step hstep w Stage.all hs (ticks + 2)

end

end Pipeline

end ProfiledBuild
