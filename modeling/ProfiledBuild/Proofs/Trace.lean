import ProfiledBuild.Proofs.Ending

/-! The events of a run, read off its record. Only the times come from the clock. -/

namespace ProfiledBuild

def Stage.eventTypes (succeeded : Bool) : List String :=
  ["stage.started", if succeeded then "stage.completed" else "stage.failed"]

namespace StageResult

theorem isSuccess_ofOutcome {command : StageCommand} {startedAt endedAt : Timestamp}
    {outcome : Outcome} :
    (ofOutcome command startedAt endedAt outcome).isSuccess = true ↔ outcome = .ok (.code 0) := by
  cases outcome with
  | ok exit => cases h : exit.succeeded <;> simp_all [ofOutcome, isSuccess, statusOf,
      StageStatus.isSuccess, Exit.succeeded]
  | error failure => cases h : failure.isInterrupted <;> simp [ofOutcome, isSuccess, statusOf,
      StageStatus.isSuccess, h]

end StageResult

namespace Run

def failureText (r : Run) : String := (r.failure.map Failure.message).getD ""

def stageEvents (r : Run) (clock : Clock) : List StageResult → Nat → List Event
  | [], _ => []
  | result :: rest, ticks =>
    Event.stageStarted result.stage result.command (clock ticks) ::
      (if result.isSuccess then
        Event.stageCompleted result.stage result.durationMs (clock (ticks + 3))
      else Event.stageFailed result.stage r.failureText r.exitCode (clock (ticks + 3))) ::
      stageEvents r clock rest (ticks + Visit.readings)

def ending (r : Run) (clock : Clock) (ticks : Nat) : Event :=
  if r.isSuccess then
    Event.pipelineCompleted r.id.text (r.durationMs (clock ticks)) (clock (ticks + 1))
  else Event.pipelineFailed r.id.text r.exitCode (clock (ticks + 1))

def trace (r : Run) (clock : Clock) (ticks : Nat) : List Event :=
  Event.pipelineStarted r.id.text r.workload.display (clock (ticks + 1)) ::
    (r.stageEvents clock r.results (ticks + 2) ++
      [r.ending clock (ticks + 2 + Visit.readings * r.results.length)])

theorem type_ending (r : Run) (clock : Clock) (ticks : Nat) :
    (r.ending clock ticks).type =
      if r.isSuccess then "pipeline.completed" else "pipeline.failed" := by
  rw [ending]
  cases r.isSuccess <;> rfl

theorem runId_ending (r : Run) (clock : Clock) (ticks : Nat) :
    (r.ending clock ticks).data.find? "run_id" = some (.string r.id.text) := by
  rw [ending]
  cases r.isSuccess <;>
    simp [Event.pipelineCompleted, Event.pipelineFailed, Event.addData, Event.ofType]

theorem types_stageEvents (r : Run) (clock : Clock) (results : List StageResult) (ticks : Nat) :
    (r.stageEvents clock results ticks).map Event.type =
      (results.map StageResult.isSuccess).flatMap Stage.eventTypes := by
  induction results generalizing ticks with
  | nil => rfl
  | cons result rest ih =>
    rw [stageEvents, List.map_cons, List.map_cons, ih, List.map_cons, List.flatMap_cons]
    cases result.isSuccess <;> rfl

theorem types_trace (r : Run) (clock : Clock) (ticks : Nat) :
    (r.trace clock ticks).map Event.type =
      "pipeline.started" :: ((r.results.map StageResult.isSuccess).flatMap Stage.eventTypes ++
        [if r.isSuccess then "pipeline.completed" else "pipeline.failed"]) := by
  rw [trace, List.map_cons, List.map_append, types_stageEvents, List.map_singleton, type_ending]
  rfl

/-- The failure of a stage carries the failure and the exit code of its run. -/
theorem mem_stageEvents {r : Run} {clock : Clock} {results : List StageResult} {ticks : Nat}
    {e : Event} (he : e ∈ r.stageEvents clock results ticks) :
    e.type = "stage.started" ∨ e.type = "stage.completed" ∨
      e.type = "stage.failed" ∧ (∃ result ∈ results, result.isSuccess = false) ∧
        e.data.find? "error" = some (.string r.failureText) ∧
        e.data.find? "exit_code" = some (Json.int r.exitCode.toInt) := by
  induction results generalizing ticks with
  | nil => simp [stageEvents] at he
  | cons result rest ih =>
    rw [stageEvents, List.mem_cons, List.mem_cons] at he
    rcases he with rfl | rfl | he
    · exact Or.inl rfl
    · cases hs : result.isSuccess with
      | true => exact Or.inr (Or.inl rfl)
      | false =>
        refine Or.inr (Or.inr ⟨rfl, ⟨result, List.mem_cons_self, hs⟩, ?_⟩)
        simp [Event.stageFailed, Event.addData, Event.ofType]
    · rcases ih he with h | h | ⟨htype, ⟨result', hmem, hs⟩, h⟩
      · exact Or.inl h
      · exact Or.inr (Or.inl h)
      · exact Or.inr (Or.inr ⟨htype, ⟨result', List.mem_cons_of_mem _ hmem, hs⟩, h⟩)

theorem started_stageEvents (r : Run) (clock : Clock) (results : List StageResult) (ticks : Nat) :
    ((r.stageEvents clock results ticks).filter (·.type = "stage.started")).map
        (fun e => (e.data.find? "stage", e.data.find? "command")) =
      results.map fun result => (some (.string result.stage.name), some (.string result.command)) := by
  induction results generalizing ticks with
  | nil => rfl
  | cons result rest ih =>
    rw [stageEvents, List.filter_cons_of_pos, List.filter_cons_of_neg, List.map_cons,
      List.map_cons, ih]
    · simp [Event.stageStarted, Event.addData, Event.ofType]
    · cases result.isSuccess <;>
        simp [Event.stageCompleted, Event.stageFailed, Event.addData, Event.ofType]
    · simp [Event.stageStarted, Event.addData, Event.ofType]

theorem started_trace (r : Run) (clock : Clock) (ticks : Nat) :
    ((r.trace clock ticks).filter (·.type = "stage.started")).map
        (fun e => (e.data.find? "stage", e.data.find? "command")) =
      r.results.map fun result =>
        (some (.string result.stage.name), some (.string result.command)) := by
  rw [trace, List.filter_cons_of_neg, List.filter_append, List.filter_cons_of_neg, List.filter_nil,
    List.append_nil, started_stageEvents]
  · rw [type_ending]
    cases r.isSuccess <;> decide
  · simp [Event.pipelineStarted, Event.addData, Event.ofType]

theorem opening_trace (r : Run) (clock : Clock) (ticks : Nat) :
    ∃ e, (r.trace clock ticks).head? = some e ∧ e.data.find? "run_id" = some (.string r.id.text) ∧
      e.data.find? "workload" = some (.string r.workload.display) := by
  refine ⟨_, rfl, ?_⟩
  simp [Event.pipelineStarted, Event.addData, Event.ofType]

theorem closing_trace (r : Run) (clock : Clock) (ticks : Nat) :
    ∃ e, (r.trace clock ticks).getLast? = some e ∧
      e.data.find? "run_id" = some (.string r.id.text) := by
  refine ⟨r.ending clock (ticks + 2 + Visit.readings * r.results.length), ?_, runId_ending ..⟩
  rw [trace, List.getLast?_cons, List.getLast?_concat]
  rfl

theorem mem_trace {r : Run} {clock : Clock} {ticks : Nat} {e : Event}
    (he : e ∈ r.trace clock ticks) :
    e.type = "pipeline.started" ∨ e ∈ r.stageEvents clock r.results (ticks + 2) ∨
      e = r.ending clock (ticks + 2 + Visit.readings * r.results.length) := by
  rw [trace, List.mem_cons, List.mem_append, List.mem_singleton] at he
  rcases he with rfl | he
  · exact Or.inl rfl
  · exact Or.inr he

theorem error_trace {r : Run} {clock : Clock} {ticks : Nat} {e : Event}
    (he : e ∈ r.trace clock ticks) (hfailed : e.type = "stage.failed") :
    (∃ result ∈ r.results, result.isSuccess = false) ∧
      e.data.find? "error" = some (.string r.failureText) := by
  rcases mem_trace he with h | h | rfl
  · simp [h] at hfailed
  · rcases mem_stageEvents h with h | h | ⟨-, hresult, herror, -⟩
    · simp [h] at hfailed
    · simp [h] at hfailed
    · exact ⟨hresult, herror⟩
  · rw [type_ending] at hfailed
    cases hs : r.isSuccess <;> simp [hs] at hfailed

theorem exitCode_trace {r : Run} {clock : Clock} {ticks : Nat} {e : Event}
    (he : e ∈ r.trace clock ticks) (hfailed : e.type = "stage.failed" ∨ e.type = "pipeline.failed") :
    e.data.find? "exit_code" = some (Json.int r.exitCode.toInt) := by
  rcases mem_trace he with h | h | rfl
  · simp [h] at hfailed
  · rcases mem_stageEvents h with h | h | ⟨-, -, -, hcode⟩
    · simp [h] at hfailed
    · simp [h] at hfailed
    · exact hcode
  · rw [type_ending] at hfailed
    cases hs : r.isSuccess with
    | true => simp [hs] at hfailed
    | false => simp [ending, hs, Event.pipelineFailed, Event.addData, Event.ofType]

theorem field?_summary (r : Run) (now : Timestamp) :
    (r.summary now).field? "exit_code" = some (Json.int r.exitCode.toInt) := by
  simp [summary, Json.field?, Json.ofFields, Json.Fields.ofList]

end Run

namespace Visit

theorem isSuccess_result {clock : Clock} {v : Visit σ} :
    (v.result clock).isSuccess = true ↔ v.failure = none := by
  rw [failure_eq_none_iff]
  exact StageResult.isSuccess_ofOutcome

theorem events_eq {clock : Clock} {v : Visit σ} {r : Run}
    (h : ∀ failure, v.failure = some failure →
      r.failure = some failure ∧ r.exitCode = failure.exitCode) :
    v.events clock = r.stageEvents clock [v.result clock] v.ticks := by
  rw [events, closing, Run.stageEvents, Run.stageEvents]
  cases hf : v.failure with
  | none =>
    rw [if_pos (isSuccess_result.mpr hf)]
    rfl
  | some failure =>
    obtain ⟨hfailure, hcode⟩ := h failure hf
    have hfails : ¬(v.result clock).isSuccess = true := by
      rw [isSuccess_result, hf]
      exact Option.some_ne_none failure
    rw [if_neg hfails, Run.failureText, hfailure, hcode]
    rfl

end Visit

namespace Pipeline

variable (p : Pipeline σ) (w : Workload) (id : RunId) (s : σ) (ticks : Nat)

theorem flatMap_events_visits {r : Run} {stages : List Stage} {s : σ} {ticks : Nat}
    (h : ∀ v ∈ p.visits w stages s ticks, ∀ failure, v.failure = some failure →
      r.failure = some failure ∧ r.exitCode = failure.exitCode) :
    (p.visits w stages s ticks).flatMap (Visit.events p.clock) =
      r.stageEvents p.clock ((p.visits w stages s ticks).map (Visit.result p.clock)) ticks := by
  induction stages generalizing s ticks with
  | nil => rfl
  | cons stage rest ih =>
    obtain ⟨more, hvs, hmore⟩ := p.visits_cons w stage rest s ticks
    rw [hvs] at h ⊢
    have hfirst : (p.visit w stage s ticks).events p.clock =
        r.stageEvents p.clock [(p.visit w stage s ticks).result p.clock] ticks :=
      Visit.events_eq (h _ List.mem_cons_self)
    rw [List.flatMap_cons, hfirst, List.map_cons]
    obtain ⟨-, rfl⟩ | ⟨-, s', rfl⟩ := hmore
    · rfl
    · rw [ih fun v hv => h v (List.mem_cons_of_mem _ hv)]
      rfl

theorem events_eq_trace :
    (p.run w id s ticks).events = (p.run w id s ticks).run.trace p.clock ticks := by
  obtain ⟨hrun, hevents⟩ := p.run_spec w id s ticks
  have hfailing : ∀ v ∈ p.allVisits w s ticks, ∀ failure, v.failure = some failure →
      (p.closed w id s ticks).failure = some failure ∧
        (p.closed w id s ticks).exitCode = failure.exitCode := by
    intro v hv failure hf
    have hstop : stop (p.allVisits w s ticks) = some failure :=
      (p.stop_eq_some_iff w).mpr ⟨v, hv, hf⟩
    rw [failure_closed, exitCode_closed, hstop]
    exact ⟨rfl, rfl⟩
  have hclosing : p.closing w id s ticks =
      (p.closed w id s ticks).ending p.clock (p.ticksAtEnd w s ticks) := by
    have hsuccess := p.isSuccess_closed w id s ticks
    rw [closing, Run.ending, exitCode_closed, id_closed]
    cases hstop : stop (p.allVisits w s ticks) with
    | none => rw [if_pos (hsuccess.mpr hstop)]
    | some failure => rw [if_neg (by rw [hsuccess, hstop]; exact Option.some_ne_none failure)]
  rw [hevents, hrun, Run.trace, id_closed, workload_closed, results_closed, List.length_map,
    hclosing, allVisits, p.flatMap_events_visits w hfailing]
  rfl

end Pipeline

end ProfiledBuild
