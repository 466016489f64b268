import ProfiledBuild.Proofs.Gating
import ProfiledBuild.Proofs.Trace

/-! The events of a run against its record and against the calls of its runner. -/

namespace ProfiledBuild

theorem Sink.kept_collecting (notices : List Notice) :
    notices.flatMap collecting.kept = notices.filterMap Notice.event? := by
  induction notices with
  | nil => rfl
  | cons notice rest ih => cases notice <;> simp [kept, Notice.event?, List.filterMap_cons, ih]

instance (outcome : Outcome) (exit : Exit) : Decidable (outcome = .ok exit) :=
  match outcome with
  | .ok _ => decidable_of_iff _ (Except.ok.injEq ..).symm.to_iff
  | .error _ => isFalse nofun

def Call.succeeded (c : Call) : Bool := c.outcome = .ok (.code 0)

/-- The events of a run tell the same as its record and as the calls of its runner. -/
structure Lifecycle (run : Run) (calls : List Call) (events : List Event) : Prop where
  types : events.map Event.type =
    "pipeline.started" :: (calls.flatMap (fun c => Stage.eventTypes c.succeeded) ++
      [if run.state = .done then "pipeline.completed" else "pipeline.failed"])
  failsOnce : (events.map Event.type).count "stage.failed" ≤ 1
  failing : ∀ i, (events.map Event.type)[i]? = some "stage.failed" ↔
    i + 2 = (events.map Event.type).length ∧
      (events.map Event.type)[i + 1]? = some "pipeline.failed"
  results : run.results.map (fun result => (result.stage, result.command, result.isSuccess)) =
    calls.map fun c => (c.command.stage, c.command.display, c.succeeded)
  started : (events.filter (·.type = "stage.started")).map
      (fun e => (e.data.find? "stage", e.data.find? "command")) =
    run.results.map fun result => (some (.string result.stage.name), some (.string result.command))
  opening : ∃ e, events.head? = some e ∧ e.data.find? "run_id" = some (.string run.id.text) ∧
    e.data.find? "workload" = some (.string run.workload.display)
  closing : ∃ e, events.getLast? = some e ∧ e.data.find? "run_id" = some (.string run.id.text)
  error : ∀ e ∈ events, e.type = "stage.failed" → ∃ failure, run.failure = some failure ∧
    e.data.find? "error" = some (.string failure.message)
  exitCode : ∀ e ∈ events, e.type = "stage.failed" ∨ e.type = "pipeline.failed" →
    e.data.find? "exit_code" = some (Json.int run.exitCode.toInt)
  summary : ∀ now, (run.summary now).field? "exit_code" = some (Json.int run.exitCode.toInt)

theorem Call.succeeded_iff {c : Call} : c.succeeded = true ↔ c.outcome = .ok (.code 0) := by
  rw [succeeded, decide_eq_true_iff]

theorem Stage.not_mem_eventTypes {flags : List Bool} (type : String)
    (h : ∀ flag ∈ flags, flag = true) (hstarted : type ≠ "stage.started")
    (hcompleted : type ≠ "stage.completed") :
    type ∉ flags.flatMap eventTypes := by
  rw [List.mem_flatMap]
  rintro ⟨flag, hflag, hmem⟩
  rw [h flag hflag] at hmem
  simp [eventTypes, hstarted, hcompleted] at hmem

namespace Visit

theorem succeeded_call {v : Visit σ} : v.call.succeeded = true ↔ v.failure = none := by
  rw [failure_eq_none_iff]
  exact Call.succeeded_iff

theorem isSuccess_result_eq {clock : Clock} (v : Visit σ) :
    (v.result clock).isSuccess = v.call.succeeded := by
  rw [Bool.eq_iff_iff, isSuccess_result, succeeded_call]

end Visit

namespace Pipeline

variable (p : Pipeline σ) (w : Workload) (id : RunId) (s : σ) (ticks : Nat)

theorem flags_closed :
    (p.closed w id s ticks).results.map StageResult.isSuccess =
      (p.calls w id s ticks).map Call.succeeded := by
  rw [results_closed, calls_eq, List.map_map, List.map_map]
  exact List.map_congr_left fun v _ => v.isSuccess_result_eq

theorem types_events :
    (p.run w id s ticks).events.map Event.type =
      "pipeline.started" :: (((p.calls w id s ticks).map Call.succeeded).flatMap Stage.eventTypes ++
        [if (p.closed w id s ticks).isSuccess then "pipeline.completed" else "pipeline.failed"]) := by
  rw [events_eq_trace, Run.types_trace, (p.run_spec w id s ticks).1, flags_closed]

theorem types_split :
    let types := (p.run w id s ticks).events.map Event.type
    ("stage.failed" ∉ types ∧ "pipeline.failed" ∉ types) ∨
      ∃ before, types = before ++ ["stage.failed", "pipeline.failed"] ∧
        "stage.failed" ∉ before := by
  intro types
  have htypes : types = _ := p.types_events w id s ticks
  have hsuccess := p.isSuccess_closed w id s ticks
  rw [calls_eq, List.map_map, allVisits] at htypes
  rcases p.visits_split w Stage.all s (ticks + 2) with
    ⟨hstop, hall⟩ | ⟨before, last, failure, hvs, hbefore, hlast, hstop⟩
  · left
    rw [if_pos (hsuccess.mpr hstop)] at htypes
    have hflags : ∀ flag ∈ (p.visits w Stage.all s (ticks + 2)).map
        (Call.succeeded ∘ Visit.call), flag = true := by
      rw [List.forall_mem_map]
      exact fun v hv => Visit.succeeded_call.mpr (hall v hv)
    have hfailed := Stage.not_mem_eventTypes "stage.failed" hflags (by decide) (by decide)
    have hfailed' := Stage.not_mem_eventTypes "pipeline.failed" hflags (by decide)
      (by decide)
    simp [htypes, hfailed, hfailed']
  · right
    rw [if_neg (by rw [hsuccess, allVisits, hstop]; exact Option.some_ne_none failure)] at htypes
    have hflags : ∀ flag ∈ before.map (Call.succeeded ∘ Visit.call), flag = true := by
      rw [List.forall_mem_map]
      exact fun v hv => Visit.succeeded_call.mpr (hbefore v hv)
    have hlast' : last.call.succeeded = false := by
      rw [← Bool.not_eq_true, Visit.succeeded_call, hlast]
      exact Option.some_ne_none failure
    have hfailed := Stage.not_mem_eventTypes "stage.failed" hflags (by decide) (by decide)
    refine ⟨"pipeline.started" ::
      ((before.map (Call.succeeded ∘ Visit.call)).flatMap Stage.eventTypes ++ ["stage.started"]),
      ?_, by simp [hfailed]⟩
    rw [htypes, hvs]
    simp [Stage.eventTypes, hlast']

theorem count_stageFailed_le_one :
    ((p.run w id s ticks).events.map Event.type).count "stage.failed" ≤ 1 := by
  rcases p.types_split w id s ticks with ⟨hfailed, -⟩ | ⟨before, htypes, hbefore⟩
  · rw [List.count_eq_zero.mpr hfailed]
    exact Nat.zero_le 1
  · rw [htypes, List.count_append, List.count_eq_zero.mpr hbefore]
    decide

/-- A failed stage is reported right before the failure of the whole run, and never else. -/
theorem getElem?_stageFailed_iff (i : Nat) :
    let types := (p.run w id s ticks).events.map Event.type
    types[i]? = some "stage.failed" ↔
      i + 2 = types.length ∧ types[i + 1]? = some "pipeline.failed" := by
  intro types
  rcases p.types_split w id s ticks with ⟨hfailed, hfailed'⟩ | ⟨before, htypes, hbefore⟩
  · constructor
    · intro h
      exact absurd (List.mem_of_getElem? h) hfailed
    · rintro ⟨-, h⟩
      exact absurd (List.mem_of_getElem? h) hfailed'
  · change types = _ at htypes
    rw [htypes]
    constructor
    · intro h
      have hi := (List.getElem?_eq_some_iff.mp h).1
      rcases Nat.lt_trichotomy i before.length with hlt | rfl | hgt
      · rw [List.getElem?_append_left hlt] at h
        exact absurd (List.mem_of_getElem? h) hbefore
      · simp
      · rw [List.length_append, List.length_cons, List.length_singleton] at hi
        obtain rfl : i = before.length + 1 := by omega
        simp at h
    · rintro ⟨hi, -⟩
      rw [List.length_append, List.length_cons, List.length_singleton] at hi
      obtain rfl : i = before.length := by omega
      simp

theorem results_eq_calls :
    (p.closed w id s ticks).results.map
        (fun result => (result.stage, result.command, result.isSuccess)) =
      (p.calls w id s ticks).map
        fun c => (c.command.stage, c.command.display, c.succeeded) := by
  rw [results_closed, calls_eq, List.map_map, List.map_map]
  refine List.map_congr_left fun v _ => ?_
  simp only [Function.comp_apply, Visit.isSuccess_result_eq]
  rfl

theorem failure_of_result {result : StageResult} (hmem : result ∈ (p.closed w id s ticks).results)
    (hresult : result.isSuccess = false) :
    ∃ failure, (p.closed w id s ticks).failure = some failure := by
  rw [results_closed, List.mem_map] at hmem
  obtain ⟨v, hv, rfl⟩ := hmem
  rw [← Bool.not_eq_true, Visit.isSuccess_result] at hresult
  obtain ⟨failure, hf⟩ := Option.ne_none_iff_exists'.mp hresult
  exact ⟨failure, by rw [failure_closed]; exact (p.stop_eq_some_iff w).mpr ⟨v, hv, hf⟩⟩

theorem run_lifecycle :
    (p.run w id s ticks).run.id = id ∧ (p.run w id s ticks).run.workload = w ∧
      (p.run w id s ticks).events = (p.run w id s ticks).run.trace p.clock ticks ∧
      (p.run w id s ticks).notices.flatMap Sink.collecting.kept = (p.run w id s ticks).events ∧
      Lifecycle (p.run w id s ticks).run (p.calls w id s ticks) (p.run w id s ticks).events := by
  have hrun : (p.run w id s ticks).run = p.closed w id s ticks := (p.run_spec w id s ticks).1
  have hevents := p.events_eq_trace w id s ticks
  refine ⟨?_, ?_, hevents, Sink.kept_collecting _, ?_⟩
  · rw [hrun, id_closed]
  · rw [hrun, workload_closed]
  · constructor
    case types =>
      have htypes := p.types_events w id s ticks
      rw [List.flatMap_map] at htypes
      rw [htypes, hrun]
      simp [Run.isSuccess]
    case failsOnce => exact p.count_stageFailed_le_one w id s ticks
    case failing => exact p.getElem?_stageFailed_iff w id s ticks
    case results =>
      rw [hrun]
      exact p.results_eq_calls w id s ticks
    case started =>
      rw [hevents]
      exact Run.started_trace _ _ _
    case opening =>
      rw [hevents]
      exact Run.opening_trace _ p.clock ticks
    case closing =>
      rw [hevents]
      exact Run.closing_trace _ p.clock ticks
    case error =>
      intro e he hfailed
      rw [hevents] at he
      obtain ⟨⟨result, hmem, hresult⟩, herror⟩ := Run.error_trace he hfailed
      rw [hrun] at hmem herror ⊢
      obtain ⟨failure, hfailure⟩ := p.failure_of_result w id s ticks hmem hresult
      refine ⟨failure, hfailure, ?_⟩
      rw [herror, Run.failureText, hfailure]
      rfl
    case exitCode =>
      intro e he hfailed
      rw [hevents] at he
      exact Run.exitCode_trace he hfailed
    case summary => exact Run.field?_summary _

end Pipeline

end ProfiledBuild
