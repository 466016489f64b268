import ProfiledBuild.Log.Filter
import ProfiledBuild.Proofs.Notices
import ProfiledBuild.Proofs.Rehearsal

/-! What a run logs at the level of warnings and above. It is nothing when all went well or when the
stage's own process has already said what went wrong, and else one record, the error. -/

namespace ProfiledBuild

namespace Log

/-- A warning or something worse. -/
def Record.isLoud (r : Record) : Bool := Level.warn.severity ≤ r.level.severity

namespace Entry

def isLoud : Entry → Bool
  | .record r => r.isLoud
  | .raw _ => false

def hasMessage (message : String) : Entry → Bool
  | .record r => r.message = message
  | .raw _ => false

theorem isLoud_inside (span : Span) (e : Entry) : (e.inside span).isLoud = e.isLoud := by
  cases e <;> rfl

theorem hasMessage_inside (message : String) (span : Span) (e : Entry) :
    (e.inside span).hasMessage message = e.hasMessage message := by
  cases e <;> rfl

end Entry

namespace Filter

theorem admits_default (r : Record) : default.admits r = r.isLoud := by
  simp [admits, admitsRecordAlone, statics, dynamics, lastOfEach, default, Directive.everywhere,
    Directive.isStatic, Directive.isDynamic, Directive.matchesTarget, Directive.hasField, decision,
    mostSpecific, thresholdInside, Threshold.greatest, Threshold.admits, Record.isLoud]

theorem isSome_apply_default (r : Record) : (default.apply (.record r)).isSome = r.isLoud := by
  rw [apply, admits_default]
  cases r.isLoud <;> rfl

end Filter

end Log

namespace Sink

open Log

/-- A choice of log entries that does not look at spans and leaves out what a sink has written. -/
structure Discerning (q : Entry → Bool) : Prop where
  span : ∀ span e, q (e.inside span) = q e
  event : ∀ level e, q (.record (record level e)) = false

theorem discerning_isLoud : Discerning Entry.isLoud where
  span := Entry.isLoud_inside
  event level e := by cases level <;> rfl

theorem discerning_hasMessage {message : String} (h : message.toList.head? ≠ some 'E') :
    Discerning (Entry.hasMessage message) where
  span := Entry.hasMessage_inside message
  event level e := by
    rw [Entry.hasMessage, decide_eq_false_iff_not]
    rintro rfl
    simp [record, Record.ofMessage] at h

theorem filter_entries {q : Entry → Bool} (hq : Discerning q) (sink : Sink) (span : Span)
    (notices : List Notice) :
    ((notices.flatMap sink.entries).map (·.inside span)).filter q =
      ((Notice.logs notices).filter q).map (·.inside span) := by
  induction notices with
  | nil => rfl
  | cons notice rest ih =>
    rw [List.flatMap_cons, List.map_append, List.filter_append, ih]
    cases notice with
    | log e => cases he : q e <;> simp [entries, hq.span, he]
    | event e =>
      cases sink with
      | logging level => simp [entries, hq.span, hq.event]
      | discarding => rfl
      | collecting => rfl

theorem spans_entries {sink : Sink} {notices : List Notice}
    (h : ∀ e ∈ Notice.logs notices, e.Own) :
    ∀ e ∈ notices.flatMap sink.entries, ∃ r, e = .record r ∧ r.spans = [] := by
  intro e he
  obtain ⟨notice, hnotice, he⟩ := List.mem_flatMap.mp he
  cases notice with
  | log e' =>
    rw [entries, List.mem_singleton] at he
    obtain ⟨r, hr, hspans, -⟩ :=
      h e (List.mem_filterMap.mpr ⟨.log e', hnotice, congrArg some he.symm⟩)
    exact ⟨r, hr, hspans⟩
  | event e' =>
    cases sink with
    | logging level => exact ⟨record level e', List.mem_singleton.mp he, rfl⟩
    | discarding => cases he
    | collecting => cases he

end Sink

/-- What a run itself writes, inside its span. -/
def Run.entry (run : Run) (level : Log.Level) (message : String) (fields : Log.Fields) :
    Log.Entry :=
  .record ⟨level, "aprs_pgo::pipeline", message, fields, [Pipeline.span run]⟩

/-- All went well, or the process of a stage has already said what went wrong. -/
def Run.NeedsNoError (run : Run) : Prop :=
  run.state = .done ∨ ∃ stage exit, run.failure = some (.stageFailed stage exit)

/-- What is heard of a run on `w` from its log. -/
structure Heard (w : Workload) (id : RunId) (run : Run) (log : List Log.Entry) : Prop where
  quiet : run.NeedsNoError → log.filter Log.Entry.isLoud = []
  loud : ¬run.NeedsNoError → ∃ failure before after, run.failure = some failure ∧
    let error := run.entry .error failure.message [("exit_code", .int run.exitCode.toInt)]
    log = before ++ error :: after ∧ log.filter Log.Entry.isLoud = [error] ∧
      before.filter (Log.Entry.hasMessage "starting stage") = run.results.map (fun result =>
        run.entry .info "starting stage"
          [("stage", .shown result.stage.title), ("command", .shown result.command)]) ∧
      after.filter (Log.Entry.hasMessage "starting stage") = []
  stopped : ∀ stage exit, run.failure = some (.stageFailed stage exit) →
    log.filter (Log.Entry.hasMessage "pipeline stopped") =
      [run.entry .info "pipeline stopped"
        [("error", .shown (Failure.stageFailed stage exit).message),
          ("exit_code", .int run.exitCode.toInt)]]
  spans : ∀ e ∈ log, ∃ r, e = .record r ∧
    r.spans = [⟨.info, "aprs_pgo::pipeline", "pgo_pipeline",
      [("run_id", .shown id.text), ("workload", .shown w.display)]⟩]
  shown : ∀ e ∈ log, (Log.Filter.default.apply e).isSome = e.isLoud

namespace Pipeline

open Log

variable {p : Pipeline σ} (w : Workload) (id : RunId) (s : σ) (ticks : Nat)

theorem mem_logs_untilEnding (hsilent : p.runner.Silent) {e : Entry}
    (he : e ∈ Notice.logs (p.untilEnding w id s ticks)) :
    e.isLoud = false ∧ e.hasMessage "pipeline stopped" = false := by
  rw [logs_untilEnding w id s ticks hsilent, List.mem_flatMap] at he
  obtain ⟨v, -, he⟩ := he
  rcases List.mem_cons.mp he with rfl | he
  · exact ⟨rfl, rfl⟩
  · rcases Visit.mem_logs_report he with rfl | rfl
    · exact ⟨rfl, rfl⟩
    · exact ⟨rfl, rfl⟩

theorem filter_isLoud_untilEnding (hsilent : p.runner.Silent) :
    (Notice.logs (p.untilEnding w id s ticks)).filter Entry.isLoud = [] :=
  List.filter_eq_nil_iff.mpr fun _ he =>
    Bool.eq_false_iff.mp (mem_logs_untilEnding w id s ticks hsilent he).1

theorem filter_stopped_untilEnding (hsilent : p.runner.Silent) :
    (Notice.logs (p.untilEnding w id s ticks)).filter (Entry.hasMessage "pipeline stopped") = [] :=
  List.filter_eq_nil_iff.mpr fun _ he =>
    Bool.eq_false_iff.mp (mem_logs_untilEnding w id s ticks hsilent he).2

theorem starting_untilEnding (hsilent : p.runner.Silent) :
    (Notice.logs (p.untilEnding w id s ticks)).filter (Entry.hasMessage "starting stage") =
      (p.allVisits w s ticks).map Visit.startingEntry := by
  rw [logs_untilEnding w id s ticks hsilent, List.filter_flatMap, List.map_eq_flatMap]
  refine congrArg (List.flatMap · _) (funext fun v => ?_)
  have hreport :
      (Notice.logs (v.report p.clock)).filter (Entry.hasMessage "starting stage") = [] := by
    refine List.filter_eq_nil_iff.mpr fun e he => Bool.eq_false_iff.mp ?_
    rcases Visit.mem_logs_report he with rfl | rfl
    · rfl
    · rfl
  rw [List.filter_cons_of_pos rfl, hreport]

variable (p)

theorem verdict_of_ne_stageFailed {failure : Failure}
    (h : ∀ stage exit, failure ≠ .stageFailed stage exit) :
    verdict failure = .ofMessage .error "aprs_pgo::pipeline" failure.message
      [("exit_code", .int failure.exitCode.toInt)] := by
  cases failure with
  | stageFailed stage exit => exact absurd rfl (h stage exit)
  | emptyWorkload => rfl
  | missingCommand stage program => rfl
  | spawn stage program error => rfl
  | interrupted stage signal => rfl
  | system error => rfl

theorem filter_log {q : Entry → Bool} (hq : Sink.Discerning q) (g : Progress σ) :
    (p.log g).filter q =
      ((Notice.logs g.notices).filter q).map (·.inside (span g.run)) :=
  Sink.filter_entries hq p.sink (span g.run) g.notices

theorem needsNoError_closed :
    (p.closed w id s ticks).NeedsNoError ↔ ∀ failure, stop (p.allVisits w s ticks) = some failure →
      ∃ stage exit, failure = .stageFailed stage exit := by
  rw [Run.NeedsNoError, state_closed, failure_closed]
  cases stop (p.allVisits w s ticks) <;> simp

variable {p}

theorem quiet_run (hsilent : p.runner.Silent) (h : (p.closed w id s ticks).NeedsNoError) :
    (p.log (p.run w id s ticks)).filter Entry.isLoud = [] := by
  rw [p.filter_log Sink.discerning_isLoud, List.map_eq_nil_iff]
  rw [needsNoError_closed] at h
  cases hstop : stop (p.allVisits w s ticks) with
  | none =>
    rw [p.notices_of_stop_eq_none w id s ticks hstop, Notice.logs_append, List.filter_append,
      filter_isLoud_untilEnding w id s ticks hsilent]
    rfl
  | some failure =>
    obtain ⟨stage, exit, rfl⟩ := h failure hstop
    rw [p.notices_of_stop_eq_some w id s ticks hstop, Notice.logs_append, List.filter_append,
      filter_isLoud_untilEnding w id s ticks hsilent]
    rfl

theorem stopped_run (hsilent : p.runner.Silent) {stage : Stage} {exit : Exit}
    (hstop : stop (p.allVisits w s ticks) = some (.stageFailed stage exit)) :
    (p.log (p.run w id s ticks)).filter (Entry.hasMessage "pipeline stopped") =
      [(p.run w id s ticks).run.entry .info "pipeline stopped"
        [("error", .shown (Failure.stageFailed stage exit).message),
          ("exit_code", .int exit.exitCode.toInt)]] := by
  rw [p.filter_log (Sink.discerning_hasMessage (by decide)),
    p.notices_of_stop_eq_some w id s ticks hstop, Notice.logs_append, List.filter_append,
    filter_stopped_untilEnding w id s ticks hsilent]
  rfl

theorem loud_run (hsilent : p.runner.Silent) {failure : Failure}
    (hstop : stop (p.allVisits w s ticks) = some failure)
    (hfailure : ∀ stage exit, failure ≠ .stageFailed stage exit) :
    let run := (p.run w id s ticks).run
    let error := run.entry .error failure.message [("exit_code", .int failure.exitCode.toInt)]
    ∃ before after, p.log (p.run w id s ticks) = before ++ error :: after ∧
      before.filter Entry.isLoud = [] ∧ after.filter Entry.isLoud = [] ∧
      before.filter (Entry.hasMessage "starting stage") =
        (p.allVisits w s ticks).map (fun v => v.startingEntry.inside (span run)) ∧
      after.filter (Entry.hasMessage "starting stage") = [] := by
  intro run error
  let entries (notices : List Notice) : List Entry :=
    (notices.flatMap p.sink.entries).map (·.inside (span run))
  have hfilter {q : Entry → Bool} (hq : Sink.Discerning q) (notices : List Notice) :
      (entries notices).filter q = ((Notice.logs notices).filter q).map (·.inside (span run)) :=
    Sink.filter_entries hq p.sink (span run) notices
  have hstarting : Sink.Discerning (Entry.hasMessage "starting stage") :=
    Sink.discerning_hasMessage (by decide)
  refine ⟨entries (p.untilEnding w id s ticks), entries (p.afterVerdict w id s ticks),
    ?_, ?_, ?_, ?_, ?_⟩
  · rw [log, p.notices_of_stop_eq_some w id s ticks hstop, List.flatMap_append, List.map_append,
      List.flatMap_cons, verdict_of_ne_stageFailed hfailure]
    rfl
  · rw [hfilter Sink.discerning_isLoud, filter_isLoud_untilEnding w id s ticks hsilent]
    rfl
  · rw [hfilter Sink.discerning_isLoud]
    rfl
  · rw [hfilter hstarting, starting_untilEnding w id s ticks hsilent, List.map_map]
    rfl
  · rw [hfilter hstarting]
    rfl

/-- A run whose runner is silent logs one error if it fails by something that the process of a
stage has not reported, after all its stages have started, and else nothing above information. -/
theorem run_heard (hsilent : p.runner.Silent) :
    let g := p.run w id s ticks
    Heard w id g.run (p.log g) := by
  intro g
  have hrun : g.run = p.closed w id s ticks := (p.run_spec w id s ticks).1
  have hspan {e : Entry} (he : e ∈ p.log g) : ∃ r, e = .record r ∧ r.spans = [span g.run] := by
    obtain ⟨e', he', rfl⟩ := List.mem_map.mp he
    obtain ⟨r, rfl, hr⟩ := Sink.spans_entries (fun _ => own_logs_run w id s ticks hsilent) e' he'
    exact ⟨r.inside (span g.run), rfl, congrArg (span g.run :: ·) hr⟩
  constructor
  case quiet =>
    rw [hrun]
    exact quiet_run w id s ticks hsilent
  case loud =>
    intro h
    rw [hrun, needsNoError_closed] at h
    obtain ⟨failure, hstop, hfailure⟩ :
        ∃ failure, stop (p.allVisits w s ticks) = some failure ∧
          ∀ stage exit, failure ≠ .stageFailed stage exit := by
      simpa using h
    obtain ⟨before, after, hlog, hbefore, hafter, hstarting, hdone⟩ :=
      loud_run w id s ticks hsilent hstop hfailure
    have hcode : g.run.exitCode = failure.exitCode := by rw [hrun, exitCode_closed, hstop]
    refine ⟨failure, before, after, by rw [hrun, failure_closed, hstop], ?_, ?_, ?_, hdone⟩
    · rw [hcode]
      exact hlog
    · rw [hcode, hlog, List.filter_append, hbefore, List.filter_cons_of_pos rfl, hafter]
      rfl
    · rw [hstarting, hrun, results_closed, List.map_map]
      rfl
  case stopped =>
    intro stage exit h
    rw [hrun, failure_closed] at h
    rw [hrun, exitCode_closed, h, ← hrun]
    exact stopped_run w id s ticks hsilent h
  case spans =>
    intro e he
    obtain ⟨r, hr, hspans⟩ := hspan he
    rw [span, hrun, id_closed, workload_closed] at hspans
    exact ⟨r, hr, hspans⟩
  case shown =>
    intro e he
    obtain ⟨r, rfl, -⟩ := hspan he
    exact Filter.isSome_apply_default r

/-- The profiling run is asked to terminate. -/
def terminated : Recording :=
  Recording.untold.withError .profilingRun fun c => .interrupted c.stage .terminate

theorem terminated_heard :
    let p := rehearsal .default (.logging .debug) fun _ => Inhabited.default
    let w : Workload := ⟨Path.ofString "first", by decide⟩
    let g := p.run w (.ofRandom 0 1) terminated 0
    p.runner.Silent ∧ Heard w (.ofRandom 0 1) g.run (p.log g) ∧
      (p.log g).filter Entry.isLoud =
        [g.run.entry .error "profiling-run interrupted by SIGTERM" [("exit_code", .int 143)]] := by
  intro p w g
  have hsilent : p.runner.Silent := fun _ _ => rfl
  have hheard : Heard w (.ofRandom 0 1) g.run (p.log g) := run_heard w _ terminated 0 hsilent
  have hreport : g.run.report = .ofCalls w (terminated.calls (Config.default.plan w)) :=
    report_rehearsal ..
  have hfailure : g.run.failure = some (.interrupted .profilingRun .terminate) :=
    (congrArg Report.failure hreport).trans (by decide)
  have hcode : g.run.exitCode = 143 := (congrArg Report.exitCode hreport).trans (by decide)
  have hstate : g.run.state = .failed := (congrArg Report.state hreport).trans (by decide)
  have hneeds : ¬g.run.NeedsNoError := by
    simp [Run.NeedsNoError, hstate, hfailure]
  obtain ⟨failure, before, after, hfailure', -, hloud, -⟩ := hheard.loud hneeds
  rw [hfailure, Option.some.injEq] at hfailure'
  rw [← hfailure', hcode] at hloud
  exact ⟨hsilent, hheard, hloud⟩

end Pipeline

end ProfiledBuild
