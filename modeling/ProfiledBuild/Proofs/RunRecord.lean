import ProfiledBuild.Proofs.Gating
import ProfiledBuild.Proofs.Trace

/-! The record of a run that is over. State, results, failure and exit code are written at different
places; here they are shown to agree with each other and with the answers of the runner. -/

namespace ProfiledBuild

structure Settled (run : Run) (calls : List Call) : Prop where
  terminal : run.state.isTerminal = true
  done : run.state = .done ↔ run.failure = none
  succeeded : run.state = .done ↔ run.results.length = 3 ∧ ∀ r ∈ run.results, r.status = .ok
  failed : run.state = .failed ↔ ∃ failure, run.failure = some failure
  invoked : run.invokedStages ≠ [] ∧ run.invokedStages <+: Stage.all
  beforeLast : ∀ r ∈ run.results.dropLast,
    r.status = .ok ∧ r.exit = some (.code 0) ∧ r.error = none
  exits : run.results.map (·.exit) = calls.map (·.outcome.toOption)
  errors : ∀ r ∈ run.results, r.error ≠ none ↔ r.status ≠ .ok
  cancelled : (∃ r ∈ run.results, r.status = .cancel) ↔
    ∃ stage signal, run.failure = some (.interrupted stage signal)
  unsuccessful : ∀ call exit, calls.getLast? = some call → call.outcome = .ok exit →
    exit ≠ .code 0 → ∃ r, run.results.getLast? = some r ∧
      run.failure = some (.stageFailed r.stage exit)
  erroneous : ∀ call failure, calls.getLast? = some call → call.outcome = .error failure →
    run.failure = some failure
  exitCode : ∀ r exit, run.results.getLast? = some r → r.exit = some exit →
    run.exitCode = exit.exitCode
  failureCode : ∀ r, run.results.getLast? = some r → r.exit = none →
    ∃ failure, run.failure = some failure ∧ run.exitCode = failure.exitCode
  summary : ∀ now, (run.summary now).field? "state" = some (.string run.state.name) ∧
    (run.summary now).field? "exit_code" = some (Json.int run.exitCode.toInt) ∧
    (run.summary now).field? "stages" = some (.array (run.results.map StageResult.toJson))

namespace StageResult

variable {command : StageCommand} {startedAt endedAt : Timestamp} {outcome : Outcome}

theorem status_ofOutcome_eq_ok_iff :
    (ofOutcome command startedAt endedAt outcome).status = .ok ↔ outcome = .ok (.code 0) := by
  have h := @isSuccess_ofOutcome command startedAt endedAt outcome
  rwa [isSuccess, StageStatus.isSuccess, decide_eq_true_iff] at h

theorem status_ofOutcome_eq_cancel_iff :
    (ofOutcome command startedAt endedAt outcome).status = .cancel ↔
      ∃ stage signal, outcome = .error (.interrupted stage signal) := by
  cases outcome with
  | ok exit => cases h : exit.succeeded <;> simp [ofOutcome, statusOf, h]
  | error failure => cases failure <;> simp [ofOutcome, statusOf, Failure.isInterrupted]

theorem error_ofOutcome_eq_none_iff :
    (ofOutcome command startedAt endedAt outcome).error = none ↔ outcome = .ok (.code 0) := by
  cases outcome with
  | ok exit => simp [ofOutcome, errorOf, Exit.succeeded]
  | error failure => simp [ofOutcome, errorOf]

end StageResult

namespace Visit

theorem status_result_eq_ok_iff {clock : Clock} {v : Visit σ} :
    (v.result clock).status = .ok ↔ v.failure = none := by
  rw [failure_eq_none_iff]
  exact StageResult.status_ofOutcome_eq_ok_iff

theorem error_result_eq_none_iff {clock : Clock} {v : Visit σ} :
    (v.result clock).error = none ↔ v.failure = none := by
  rw [failure_eq_none_iff]
  exact StageResult.error_ofOutcome_eq_none_iff

theorem exit_result (clock : Clock) (v : Visit σ) : (v.result clock).exit = v.outcome.toOption :=
  rfl

theorem outcome_of_exit_some {clock : Clock} {v : Visit σ} {exit : Exit}
    (h : (v.result clock).exit = some exit) : v.outcome = .ok exit := by
  rw [exit_result] at h
  cases houtcome : v.outcome with
  | ok exit' =>
    rw [houtcome] at h
    exact congrArg Except.ok (Option.some.inj h)
  | error failure => simp [houtcome, Except.toOption] at h

theorem outcome_of_exit_none {clock : Clock} {v : Visit σ} (h : (v.result clock).exit = none) :
    ∃ failure, v.outcome = .error failure := by
  rw [exit_result] at h
  cases houtcome : v.outcome with
  | ok exit => simp [houtcome, Except.toOption] at h
  | error failure => exact ⟨failure, rfl⟩

theorem failure_of_outcome_error {v : Visit σ} {failure : Failure}
    (h : v.outcome = .error failure) : v.failure = some failure := by
  rw [Visit.failure, h, Pipeline.failureOf]

theorem failure_of_outcome_ok {v : Visit σ} {exit : Exit} (h : v.outcome = .ok exit)
    (hexit : exit ≠ .code 0) : v.failure = some (.stageFailed v.command.stage exit) := by
  rw [Visit.failure, h, Pipeline.failureOf, if_neg]
  simpa [Exit.succeeded] using hexit

theorem exitCode_of_outcome_ok {v : Visit σ} {exit : Exit} (h : v.outcome = .ok exit) :
    (match v.failure with
      | none => 0
      | some failure => failure.exitCode) = exit.exitCode := by
  by_cases hexit : exit = .code 0
  · rw [failure_eq_none_iff.mpr (h.trans (congrArg Except.ok hexit)), hexit]
    rfl
  · rw [failure_of_outcome_ok h hexit]
    rfl

/-- The status of a result and the failure of its run come from the answer by separate rules. -/
theorem status_result_eq_cancel_iff {clock : Clock} {v : Visit σ} :
    (v.result clock).status = .cancel ↔
      ∃ stage signal, v.failure = some (.interrupted stage signal) := by
  rw [show (v.result clock).status = .cancel ↔ _ from StageResult.status_ofOutcome_eq_cancel_iff]
  refine exists₂_congr fun stage signal => ?_
  cases h : v.outcome with
  | error failure => rw [failure_of_outcome_error h, Except.error.injEq, Option.some.injEq]
  | ok exit =>
    by_cases hexit : exit = .code 0
    · rw [failure_eq_none_iff.mpr (h.trans (congrArg Except.ok hexit))]
      simp
    · rw [failure_of_outcome_ok h hexit]
      simp

end Visit

namespace Run

theorem field?_state_summary (r : Run) (now : Timestamp) :
    (r.summary now).field? "state" = some (.string r.state.name) := by
  simp [summary, Json.field?, Json.ofFields, Json.Fields.ofList]

theorem field?_stages_summary (r : Run) (now : Timestamp) :
    (r.summary now).field? "stages" = some (.array (r.results.map StageResult.toJson)) := by
  simp [summary, Json.field?, Json.ofFields, Json.Fields.ofList]

end Run

namespace Pipeline

variable (p : Pipeline σ) (w : Workload) (id : RunId) (s : σ) (ticks : Nat)

theorem failure_of_mem_dropLast {v : Visit σ} (hv : v ∈ (p.allVisits w s ticks).dropLast) :
    v.failure = none := by
  rw [allVisits] at hv
  rcases p.visits_split w Stage.all s (ticks + 2) with
    ⟨-, hall⟩ | ⟨before, last, failure, hvs, hbefore, -⟩
  · exact hall v (List.dropLast_subset _ hv)
  · rw [hvs, List.dropLast_concat] at hv
    exact hbefore v hv

/-- The last visit tells how a run ends. -/
theorem stop_eq_of_getLast? {v : Visit σ} (hv : (p.allVisits w s ticks).getLast? = some v) :
    stop (p.allVisits w s ticks) = v.failure := by
  rw [allVisits] at hv ⊢
  rcases p.visits_split w Stage.all s (ticks + 2) with
    ⟨hstop, hall⟩ | ⟨before, last, failure, hvs, -, hlast, hstop⟩
  · rw [hstop, hall v (List.mem_of_getLast? hv)]
  · rw [hvs, List.getLast?_concat, Option.some.injEq] at hv
    rw [hstop, ← hv, hlast]

theorem stop_eq_none_iff_forall :
    stop (p.allVisits w s ticks) = none ↔
      (p.allVisits w s ticks).length = 3 ∧ ∀ v ∈ p.allVisits w s ticks, v.failure = none := by
  constructor
  · intro h
    exact ⟨p.length_of_stop_eq_none w h, List.findSome?_eq_none_iff.mp h⟩
  · rintro ⟨-, h⟩
    exact List.findSome?_eq_none_iff.mpr h

theorem getLast?_results_closed {r : StageResult}
    (h : (p.closed w id s ticks).results.getLast? = some r) :
    ∃ v, (p.allVisits w s ticks).getLast? = some v ∧ v.result p.clock = r := by
  rw [results_closed, List.getLast?_map, Option.map_eq_some_iff] at h
  exact h

theorem getLast?_calls {call : Call} (h : (p.calls w id s ticks).getLast? = some call) :
    ∃ v, (p.allVisits w s ticks).getLast? = some v ∧ v.call = call := by
  rw [calls_eq, List.getLast?_map, Option.map_eq_some_iff] at h
  exact h

theorem settled_closed : Settled (p.closed w id s ticks) (p.calls w id s ticks) := by
  have hstate := p.state_closed w id s ticks
  have hfailure := p.failure_closed w id s ticks
  have hresults := p.results_closed w id s ticks
  have hcode := p.exitCode_closed w id s ticks
  constructor
  case terminal =>
    rw [hstate]
    cases stop (p.allVisits w s ticks) <;> rfl
  case done =>
    rw [hstate, hfailure]
    cases stop (p.allVisits w s ticks) <;> simp
  case succeeded =>
    have hdone : (p.closed w id s ticks).state = .done ↔ stop (p.allVisits w s ticks) = none := by
      rw [hstate]
      cases stop (p.allVisits w s ticks) <;> simp
    rw [hdone, stop_eq_none_iff_forall, hresults, List.length_map, List.forall_mem_map]
    exact and_congr_right' (forall₂_congr fun v _ => Visit.status_result_eq_ok_iff.symm)
  case failed =>
    rw [hstate, hfailure]
    cases stop (p.allVisits w s ticks) <;> simp
  case invoked =>
    rw [invokedStages_closed]
    refine ⟨?_, List.take_prefix _ _⟩
    have hpos := p.length_allVisits_pos w s ticks
    rw [← List.length_pos_iff, List.length_take, Stage.all, List.length_cons]
    omega
  case beforeLast =>
    rw [hresults, ← List.map_dropLast, List.forall_mem_map]
    intro v hv
    have hnone := p.failure_of_mem_dropLast w s ticks hv
    refine ⟨Visit.status_result_eq_ok_iff.mpr hnone, ?_, Visit.error_result_eq_none_iff.mpr hnone⟩
    rw [Visit.exit_result, Visit.failure_eq_none_iff.mp hnone]
    rfl
  case exits =>
    rw [hresults, calls_eq, List.map_map, List.map_map]
    rfl
  case errors =>
    rw [hresults, List.forall_mem_map]
    intro v _
    rw [Ne, Visit.error_result_eq_none_iff, Ne, Visit.status_result_eq_ok_iff]
  case cancelled =>
    rw [hresults, hfailure, allVisits]
    constructor
    · rintro ⟨r, hr, hcancel⟩
      obtain ⟨v, hv, rfl⟩ := List.mem_map.mp hr
      obtain ⟨stage, signal, h⟩ := Visit.status_result_eq_cancel_iff.mp hcancel
      exact ⟨stage, signal, (p.stop_eq_some_iff w).mpr ⟨v, hv, h⟩⟩
    · rintro ⟨stage, signal, hstop⟩
      obtain ⟨v, hv, h⟩ := (p.stop_eq_some_iff w).mp hstop
      exact ⟨v.result p.clock, List.mem_map_of_mem hv,
        Visit.status_result_eq_cancel_iff.mpr ⟨stage, signal, h⟩⟩
  case unsuccessful =>
    intro call exit hcall houtcome hexit
    obtain ⟨v, hv, rfl⟩ := p.getLast?_calls w id s ticks hcall
    refine ⟨v.result p.clock, by rw [hresults, List.getLast?_map, hv]; rfl, ?_⟩
    rw [hfailure, p.stop_eq_of_getLast? w s ticks hv]
    exact Visit.failure_of_outcome_ok houtcome hexit
  case erroneous =>
    intro call failure hcall houtcome
    obtain ⟨v, hv, rfl⟩ := p.getLast?_calls w id s ticks hcall
    rw [hfailure, p.stop_eq_of_getLast? w s ticks hv]
    exact Visit.failure_of_outcome_error houtcome
  case exitCode =>
    intro r exit hr hexit
    obtain ⟨v, hv, rfl⟩ := p.getLast?_results_closed w id s ticks hr
    rw [hcode, p.stop_eq_of_getLast? w s ticks hv]
    exact Visit.exitCode_of_outcome_ok (Visit.outcome_of_exit_some hexit)
  case failureCode =>
    intro r hr hexit
    obtain ⟨v, hv, rfl⟩ := p.getLast?_results_closed w id s ticks hr
    obtain ⟨failure, houtcome⟩ := Visit.outcome_of_exit_none hexit
    rw [hfailure, hcode, p.stop_eq_of_getLast? w s ticks hv,
      Visit.failure_of_outcome_error houtcome]
    exact ⟨failure, rfl, rfl⟩
  case summary =>
    intro now
    exact ⟨Run.field?_state_summary _ now, Run.field?_summary _ now,
      Run.field?_stages_summary _ now⟩

theorem run_settled : Settled (p.run w id s ticks).run (p.calls w id s ticks) := by
  rw [(p.run_spec w id s ticks).1]
  exact p.settled_closed w id s ticks

end Pipeline

end ProfiledBuild
