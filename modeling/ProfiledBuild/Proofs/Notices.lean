import ProfiledBuild.Proofs.Ending

/-! All that a run gives notice of, in order: what it logs itself, its events, and between them what
the runner logs while a command runs. Like the events alone, the notices are read off the visits. -/

namespace ProfiledBuild

/-- Nothing reaches the error stream while a command runs. -/
def Runner.Silent (r : Runner σ) : Prop := ∀ s c, (r s c).log = []

/-- A record as a run writes it itself: outside of all spans, and no report of an event. -/
def Log.Entry.Own (e : Entry) : Prop :=
  ∃ r, e = .record r ∧ r.spans = [] ∧ "event_type" ∉ r.fieldNames

namespace Notice

def logs (notices : List Notice) : List Log.Entry := notices.filterMap Notice.log?

theorem logs_append (notices more : List Notice) :
    logs (notices ++ more) = logs notices ++ logs more :=
  List.filterMap_append

theorem logs_flatMap {α : Type} (xs : List α) (f : α → List Notice) :
    logs (xs.flatMap f) = xs.flatMap fun x => logs (f x) :=
  List.filterMap_flatMap

@[simp] theorem logs_nil : logs [] = [] := rfl

@[simp] theorem logs_log (e : Log.Entry) (rest : List Notice) :
    logs (.log e :: rest) = e :: logs rest := rfl

@[simp] theorem logs_event (e : Event) (rest : List Notice) :
    logs (.event e :: rest) = logs rest := rfl

end Notice

namespace Pipeline

def logged (level : Log.Level) (message : String) (fields : Log.Fields) : Notice :=
  .log (.record (.ofMessage level "aprs_pgo::pipeline" message fields))

def starting (stage : Stage) (command : String) : Notice :=
  logged .info "starting stage" [("stage", .shown stage.title), ("command", .shown command)]

def profileNote : Notice :=
  logged .debug "profiles are written by the instrumented binary"
    [("profile_dir", .plain Config.profileDirectory)]

/-- The record of a failure that ends a run. What the stage's own process has reported is no error
here. -/
def verdict (failure : Failure) : Log.Record :=
  if failure.isReportedByChild then
    .ofMessage .info "aprs_pgo::pipeline" "pipeline stopped"
      [("error", .shown failure.message), ("exit_code", .int failure.exitCode.toInt)]
  else
    .ofMessage .error "aprs_pgo::pipeline" failure.message
      [("exit_code", .int failure.exitCode.toInt)]

end Pipeline

namespace Visit

open Pipeline

/-- What follows the command of a stage. A note on the profiles comes after the first stage, if the
run goes on. -/
def report (clock : Clock) (v : Visit σ) : List Notice :=
  match v.failure with
  | none =>
    logged .info "stage completed" [("stage", .shown v.command.stage.title),
        ("duration_ms", .float (v.result clock).durationMs)] ::
      .event (v.closing clock) ::
      if v.command.stage = .instrumentedBuild then [profileNote] else []
  | some _ => [.event (v.closing clock)]

def notices (clock : Clock) (v : Visit σ) : List Notice :=
  starting v.command.stage v.command.display ::
    .event (Event.stageStarted v.command.stage v.command.display (clock v.ticks)) ::
    (v.answer.log.map Notice.log ++ v.report clock)

end Visit

namespace Pipeline

variable (p : Pipeline σ)

/-- What ends a run: the record of how it ended, its summary and its last event. -/
def ending (w : Workload) (id : RunId) (s : σ) (ticks : Nat) : List Notice :=
  let r := p.closed w id s ticks
  let summary := (r.summary (p.clock (p.ticksAtEnd w s ticks))).text
  (match stop (p.allVisits w s ticks) with
    | none => [logged .info "pipeline completed" [("summary", .shown summary)]]
    | some failure =>
      [.log (.record (verdict failure)),
        logged .debug "pipeline failed" [("summary", .shown summary)]]) ++
    [.event (p.closing w id s ticks)]

theorem notices_announce (command : StageCommand) (g : Progress σ) :
    (p.announce command g).notices = g.notices ++ [starting command.stage command.display,
      .event (Event.stageStarted command.stage command.display (p.clock g.ticks))] :=
  List.append_assoc ..

theorem notices_invoke (command : StageCommand) (g : Progress σ) :
    (p.invoke command g).2.2.notices =
      g.notices ++ (p.runner g.runner command).log.map Notice.log := rfl

theorem notices_reportSuccess (result : StageResult) (g : Progress σ) :
    (p.reportSuccess result g).notices = g.notices ++
      [logged .info "stage completed"
        [("stage", .shown result.stage.title), ("duration_ms", .float result.durationMs)],
      .event (Event.stageCompleted result.stage result.durationMs (p.clock g.ticks))] :=
  List.append_assoc ..

theorem notices_reportFailure (stage : Stage) (failure : Failure) (g : Progress σ) :
    (p.reportFailure stage failure g).notices = g.notices ++
      [.event (Event.stageFailed stage failure.message failure.exitCode (p.clock g.ticks))] := rfl

theorem notices_afterStage (stage : Stage) (g : Progress σ) :
    (afterStage stage g).notices =
      g.notices ++ if stage = .instrumentedBuild then [profileNote] else [] := by
  by_cases h : stage = .instrumentedBuild
  · rw [afterStage, if_pos h, if_pos h]
    rfl
  · rw [afterStage, if_neg h, if_neg h, List.append_nil]

theorem stage_visit (w : Workload) (stage : Stage) (s : σ) (ticks : Nat) :
    (p.visit w stage s ticks).command.stage = stage :=
  p.config.commandFor_stage w stage

theorem notices_runStage_of_success {stage : Stage} {g : Progress σ}
    (h : (p.visit g.run.workload stage g.runner g.ticks).failure = none) :
    (afterStage stage (p.runStage stage g).2).notices =
      g.notices ++ (p.visit g.run.workload stage g.runner g.ticks).notices p.clock := by
  have hstage := p.stage_visit g.run.workload stage g.runner g.ticks
  have hresult : ((p.visit g.run.workload stage g.runner g.ticks).result p.clock).stage = stage :=
    hstage
  rw [notices_afterStage, runStage_eq, Visit.notices, Visit.report, Visit.closing, h]
  simp only [notices_reportSuccess, notices_invoke, notices_announce, List.append_assoc, hstage,
    hresult, List.cons_append, List.nil_append]
  rfl

theorem notices_runStage_of_failure {stage : Stage} {g : Progress σ} {failure : Failure}
    (h : (p.visit g.run.workload stage g.runner g.ticks).failure = some failure) :
    (p.runStage stage g).2.notices =
      g.notices ++ (p.visit g.run.workload stage g.runner g.ticks).notices p.clock := by
  have hstage := p.stage_visit g.run.workload stage g.runner g.ticks
  rw [runStage_eq, Visit.notices, Visit.report, Visit.closing, h]
  simp only [notices_reportFailure, notices_invoke, notices_announce, List.append_assoc, hstage,
    List.cons_append, List.nil_append]
  rfl

theorem notices_runStages (stages : List Stage) (g : Progress σ) :
    (p.runStages stages g).2.notices = g.notices ++
      (p.visits g.run.workload stages g.runner g.ticks).flatMap (Visit.notices p.clock) := by
  induction stages generalizing g with
  | nil => exact (List.append_nil _).symm
  | cons stage rest ih =>
    have hfailure := p.runStage_failure stage g
    cases hf : (p.runStage stage g).1 with
    | some failure =>
      rw [hf] at hfailure
      rw [p.runStages_of_failure rest hf, p.visits_of_failure rest hfailure.symm,
        List.flatMap_singleton]
      exact p.notices_runStage_of_failure hfailure.symm
    | none =>
      rw [hf] at hfailure
      obtain ⟨hrun, hrunner, hticks, -⟩ := afterStage_eq stage (p.runStage stage g).2
      rw [p.runStages_of_success rest hf, p.visits_of_success rest hfailure.symm, ih,
        p.notices_runStage_of_success hfailure.symm, hrun, hrunner, hticks, p.run_runStage,
        p.runner_runStage, p.ticks_runStage, Run.workload_visit, List.flatMap_cons,
        List.append_assoc]

theorem notices_complete (g : Progress σ) :
    let now := p.clock g.ticks
    (p.complete g).notices = g.notices ++
      [logged .info "pipeline completed"
        [("summary", .shown ((g.run.finish now).summary now).text)],
      .event (Event.pipelineCompleted g.run.id.text ((g.run.finish now).durationMs now)
        (p.clock (g.ticks + 1)))] :=
  List.append_assoc ..

theorem notices_abandon (failure : Failure) (g : Progress σ) :
    let now := p.clock g.ticks
    (p.abandon failure g).notices = g.notices ++
      [.log (.record (verdict failure)),
      logged .debug "pipeline failed"
        [("summary", .shown ((g.run.fail failure now).summary now).text)],
      .event (Event.pipelineFailed g.run.id.text failure.exitCode (p.clock (g.ticks + 1)))] := by
  have hid (now : Timestamp) : (g.run.fail failure now).id = g.run.id := rfl
  cases h : failure.isReportedByChild <;>
    simp [abandon, verdict, h, hid, Progress.log, Progress.note, Progress.emit, logged]

theorem notices_run (w : Workload) (id : RunId) (s : σ) (ticks : Nat) :
    (p.run w id s ticks).notices =
      .event (Event.pipelineStarted id.text w.display (p.clock (ticks + 1))) ::
        ((p.allVisits w s ticks).flatMap (Visit.notices p.clock) ++ p.ending w id s ticks) := by
  obtain ⟨hf, hr, -, ht, -⟩ := p.runStages_spec Stage.all (p.opened w id s ticks)
  have hn := p.notices_runStages Stage.all (p.opened w id s ticks)
  rw [run_eq]
  rcases hg : p.runStages Stage.all (p.opened w id s ticks) with ⟨failure, g'⟩
  simp only [hg] at hf hr ht hn
  have hid : g'.run.id = id := by rw [hr, foldl_visit_eq]; rfl
  change failure = stop (p.allVisits w s ticks) at hf
  change g'.run = p.reached w id s ticks at hr
  change g'.ticks = p.ticksAtEnd w s ticks at ht
  change g'.notices = _ :: (p.allVisits w s ticks).flatMap (Visit.notices p.clock) at hn
  cases failure with
  | none =>
    simp only [ending, closed, closing, ← hf]
    rw [notices_complete, hn, hid, hr, ht]
    rfl
  | some failure =>
    simp only [ending, closed, closing, ← hf]
    rw [notices_abandon, hn, hid, hr, ht]
    rfl

section

variable (w : Workload) (id : RunId) (s : σ) (ticks : Nat)

def untilEnding : List Notice :=
  .event (Event.pipelineStarted id.text w.display (p.clock (ticks + 1))) ::
    (p.allVisits w s ticks).flatMap (Visit.notices p.clock)

/-- What a run notes behind the record of its failure. -/
def afterVerdict : List Notice :=
  let now := p.clock (p.ticksAtEnd w s ticks)
  [logged .debug "pipeline failed" [("summary", .shown ((p.closed w id s ticks).summary now).text)],
    .event (p.closing w id s ticks)]

theorem notices_of_stop_eq_none (h : stop (p.allVisits w s ticks) = none) :
    (p.run w id s ticks).notices = p.untilEnding w id s ticks ++
      [logged .info "pipeline completed" [("summary", .shown ((p.closed w id s ticks).summary
        (p.clock (p.ticksAtEnd w s ticks))).text)],
      .event (p.closing w id s ticks)] := by
  rw [notices_run, ending, h]
  rfl

theorem notices_of_stop_eq_some {failure : Failure}
    (h : stop (p.allVisits w s ticks) = some failure) :
    (p.run w id s ticks).notices = p.untilEnding w id s ticks ++
      .log (.record (verdict failure)) :: p.afterVerdict w id s ticks := by
  rw [notices_run, ending, h]
  rfl

end

end Pipeline

namespace Visit

open Log Pipeline

variable {clock : Clock} {v : Visit σ}

def startingEntry (v : Visit σ) : Entry :=
  .record (.ofMessage .info "aprs_pgo::pipeline" "starting stage"
    [("stage", .shown v.command.stage.title), ("command", .shown v.command.display)])

theorem logs_notices (h : v.answer.log = []) :
    Notice.logs (v.notices clock) = v.startingEntry :: Notice.logs (v.report clock) := by
  rw [notices, h]
  rfl

theorem mem_logs_report {e : Entry} (h : e ∈ Notice.logs (v.report clock)) :
    e = .record (.ofMessage .info "aprs_pgo::pipeline" "stage completed"
        [("stage", .shown v.command.stage.title),
          ("duration_ms", .float (v.result clock).durationMs)]) ∨
      e = .record (.ofMessage .debug "aprs_pgo::pipeline"
        "profiles are written by the instrumented binary"
        [("profile_dir", .plain Config.profileDirectory)]) := by
  rw [report] at h
  cases hf : v.failure with
  | some failure => simp [hf] at h
  | none =>
    simp only [hf, logged, Notice.logs_log, Notice.logs_event, List.mem_cons] at h
    by_cases hstage : v.command.stage = .instrumentedBuild
    · simpa [hstage, profileNote, logged] using h
    · exact Or.inl (by simpa [hstage] using h)

end Visit

namespace Pipeline

open Log

variable {p : Pipeline σ} (w : Workload) (id : RunId) (s : σ) (ticks : Nat)

theorem log_visit (hsilent : p.runner.Silent) {v : Visit σ} (hv : v ∈ p.allVisits w s ticks) :
    v.answer.log = [] := by
  obtain ⟨s', hanswer⟩ := p.exists_answer_of_mem_visits w hv
  rw [hanswer]
  exact hsilent s' v.command

theorem logs_untilEnding (hsilent : p.runner.Silent) :
    Notice.logs (p.untilEnding w id s ticks) =
      (p.allVisits w s ticks).flatMap fun v =>
        v.startingEntry :: Notice.logs (v.report p.clock) := by
  rw [untilEnding, Notice.logs_event, Notice.logs_flatMap, List.flatMap_def, List.flatMap_def]
  refine congrArg List.flatten (List.map_congr_left fun v hv => ?_)
  exact Visit.logs_notices (log_visit w s ticks hsilent hv)

theorem own_ofMessage {level : Level} {message : String} {fields : Fields}
    (h : "event_type" ∉ fields.map (·.1)) :
    (Entry.record (.ofMessage level "aprs_pgo::pipeline" message fields)).Own :=
  ⟨_, rfl, rfl, List.not_mem_cons_of_ne_of_not_mem (by decide) h⟩

theorem own_verdict (failure : Failure) : (Entry.record (verdict failure)).Own := by
  rw [verdict]
  cases failure.isReportedByChild
  · exact own_ofMessage (by simp)
  · exact own_ofMessage (by simp)

theorem own_logs_run (hsilent : p.runner.Silent) {e : Entry}
    (he : e ∈ Notice.logs (p.run w id s ticks).notices) : e.Own := by
  have huntil (he : e ∈ Notice.logs (p.untilEnding w id s ticks)) : e.Own := by
    rw [logs_untilEnding w id s ticks hsilent, List.mem_flatMap] at he
    obtain ⟨v, -, he⟩ := he
    rcases List.mem_cons.mp he with rfl | he
    · exact own_ofMessage (by simp)
    · rcases Visit.mem_logs_report he with rfl | rfl
      · exact own_ofMessage (by simp)
      · exact own_ofMessage (by simp)
  cases hstop : stop (p.allVisits w s ticks) with
  | none =>
    rw [p.notices_of_stop_eq_none w id s ticks hstop, Notice.logs_append, List.mem_append] at he
    rcases he with he | he
    · exact huntil he
    · rw [List.mem_singleton.mp he]
      exact own_ofMessage (by simp)
  | some failure =>
    rw [p.notices_of_stop_eq_some w id s ticks hstop, Notice.logs_append, List.mem_append,
      Notice.logs_log, List.mem_cons] at he
    rcases he with he | rfl | he
    · exact huntil he
    · exact own_verdict failure
    · rw [List.mem_singleton.mp he]
      exact own_ofMessage (by simp)

end Pipeline

end ProfiledBuild
