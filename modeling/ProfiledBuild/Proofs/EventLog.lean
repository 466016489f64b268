import ProfiledBuild.Proofs.Notices
import ProfiledBuild.Proofs.Rehearsal

/-! The events of a run in its log. A sink that logs events writes one record for each of them
between the records of the run; it adds nothing else and changes nothing. -/

namespace ProfiledBuild

namespace Log

/-- A record reports an event by its message and by its fields for the type and the data. -/
def Record.reportsEvent (r : Record) : Bool :=
  "Event: ".toList.isPrefixOf r.message.toList &&
    ["event_type", "event_data"].all r.fieldNames.contains

namespace Entry

def reportsEvent : Entry → Bool
  | .record r => r.reportsEvent
  | .raw _ => false

theorem reportsEvent_inside (span : Span) (e : Entry) :
    (e.inside span).reportsEvent = e.reportsEvent := by
  cases e <;> rfl

theorem Own.reportsEvent_eq {e : Entry} (h : e.Own) : e.reportsEvent = false := by
  obtain ⟨r, rfl, -, hfields⟩ := h
  simp [reportsEvent, Record.reportsEvent, hfields]

end Entry

end Log

namespace Sink

open Log

theorem reportsEvent_record (level : Level) (e : Event) :
    (Entry.record (record level e)).reportsEvent = true := by
  simp [Entry.reportsEvent, Record.reportsEvent, record, Record.ofMessage, Record.fieldNames]

/-- The log of a logging sink, parted into the reports of events and the rest. -/
theorem parted_entries {notices : List Notice} (h : ∀ e ∈ Notice.logs notices, e.Own)
    (level : Level) (span : Span) :
    let entries (sink : Sink) := (notices.flatMap sink.entries).map (·.inside span)
    (entries (logging level)).filter Entry.reportsEvent =
        (notices.filterMap Notice.event?).map
          (fun e => (Entry.record (record level e)).inside span) ∧
      (entries (logging level)).filter (fun e => !e.reportsEvent) = entries discarding := by
  induction notices with
  | nil => exact ⟨rfl, rfl⟩
  | cons notice rest ih =>
    simp only [List.flatMap_cons, List.map_append, List.filter_append]
    cases notice with
    | event e =>
      obtain ⟨hreports, hrest⟩ := ih h
      rw [hreports, hrest]
      simp [entries, Notice.event?, Entry.reportsEvent_inside, reportsEvent_record]
    | log e =>
      have hown : e.reportsEvent = false := (h e List.mem_cons_self).reportsEvent_eq
      have hevent : Notice.event? (.log e) = none := rfl
      obtain ⟨hreports, hrest⟩ := ih fun e he => h e (List.mem_cons_of_mem _ he)
      rw [hreports, hrest, List.filterMap_cons_none hevent]
      simp [entries, Entry.reportsEvent_inside, hown]

end Sink

namespace Pipeline

open Log

section

variable (p : Pipeline σ) (sink : Sink)

def withSink : Pipeline σ := { p with sink := sink }

theorem runStages_withSink (stages : List Stage) (g : Progress σ) :
    (p.withSink sink).runStages stages g = p.runStages stages g := by
  induction stages generalizing g with
  | nil => rfl
  | cons stage rest ih =>
    have hstage : (p.withSink sink).runStage stage g = p.runStage stage g := rfl
    rw [runStages, runStages, hstage]
    rcases p.runStage stage g with ⟨failure | _, g'⟩
    · exact ih (afterStage stage g')
    · rfl

/-- A run does not depend on what becomes of its events. -/
theorem run_withSink (w : Workload) (id : RunId) (s : σ) (ticks : Nat) :
    (p.withSink sink).run w id s ticks = p.run w id s ticks := by
  rw [run_eq, run_eq, runStages_withSink]
  rfl

end

end Pipeline

namespace Config

open Log Pipeline

variable (config : Config)

theorem run_sinks (sink sink' : Sink) (clock : Clock) (w : Workload) (id : RunId)
    (script : Recording) (ticks : Nat) :
    (rehearsal config sink clock).run w id script ticks =
      (rehearsal config sink' clock).run w id script ticks :=
  run_withSink (rehearsal config sink' clock) sink w id script ticks

theorem own_logs_rehearsal (sink : Sink) (clock : Clock) (w : Workload) (id : RunId)
    (script : Recording) (ticks : Nat) :
    ∀ e ∈ Notice.logs ((rehearsal config sink clock).run w id script ticks).notices, e.Own :=
  fun _ => own_logs_run w id script ticks fun _ _ => rfl

theorem masked_events_rehearsal (sink sink' : Sink) (clock clock' : Clock) (w : Workload)
    (id id' : RunId) (script : Recording) (ticks ticks' : Nat) :
    ((rehearsal config sink clock).run w id script ticks).events.map Event.masked =
      ((rehearsal config sink' clock').run w id' script ticks').events.map Event.masked := by
  have hreport : ((rehearsal config sink clock).run w id script ticks).run.report =
      ((rehearsal config sink' clock').run w id' script ticks').run.report := by
    rw [report_rehearsal, report_rehearsal]
  rw [events_eq_trace, events_eq_trace]
  exact Run.masked_trace hreport _ _ _ _

/-- The records that a logging sink writes are the events that a collecting sink holds, in order
and whole. The log without them is that of a run with no sink, and nothing else depends on the
sink. Another run on the same script has the same events, ids and times apart. -/
theorem history_logged (level : Level) (script : Recording) (w : Workload) (id id' : RunId)
    (clock clock' : Clock) (ticks ticks' : Nat) :
    let run (sink : Sink) := (rehearsal config sink clock).run w id script ticks
    let run' (sink : Sink) := (rehearsal config sink clock').run w id' script ticks'
    let log (sink : Sink) := (rehearsal config sink clock).log (run sink)
    let events := (rehearsal config .collecting clock).events (run .collecting)
    let events' := (rehearsal config .collecting clock').events (run' .collecting)
    (log (.logging level)).filter Entry.reportsEvent = events.map (fun e =>
      .record ⟨Sink.recordLevel level, Sink.target, "Event: " ++ e.type,
        [("event_type", .shown e.type), ("event_data", .shown e.payload.text)],
        [span (run .collecting).run]⟩) ∧
      events.map Event.masked = events'.map Event.masked ∧
      (log (.logging level)).filter (fun e => !e.reportsEvent) = log .discarding ∧
      ∀ sink sink', (run sink).run = (run sink').run ∧
        (run sink).runner.commands = (run sink').runner.commands ∧
        (run sink).run.report = (run' sink').run.report ∧
        (run sink).runner.commands = (run' sink').runner.commands := by
  intro run run' log events events'
  have hevents : events = (run .collecting).events := Sink.kept_collecting _
  have hevents' : events' = (run' .collecting).events := Sink.kept_collecting _
  have hown := config.own_logs_rehearsal .collecting clock w id script ticks
  have hlogging : log (.logging level) =
      ((run .collecting).notices.flatMap (Sink.logging level).entries).map
        (·.inside (span (run .collecting).run)) := by
    simp only [log, run, Pipeline.log]
    rw [config.run_sinks (.logging level) .collecting]
    rfl
  have hdiscarding : log .discarding =
      ((run .collecting).notices.flatMap Sink.discarding.entries).map
        (·.inside (span (run .collecting).run)) := by
    simp only [log, run, Pipeline.log]
    rw [config.run_sinks .discarding .collecting]
    rfl
  obtain ⟨hreports, hrest⟩ := Sink.parted_entries hown level (span (run .collecting).run)
  refine ⟨?_, ?_, ?_, fun sink sink' => ⟨?_, ?_, ?_, ?_⟩⟩
  · rw [hlogging, hreports, hevents]
    rfl
  · rw [hevents, hevents']
    exact config.masked_events_rehearsal ..
  · rw [hlogging, hrest, hdiscarding]
  · rw [show run sink = run sink' from config.run_sinks ..]
  · rw [show run sink = run sink' from config.run_sinks ..]
  · simp only [run, run']
    rw [report_rehearsal, report_rehearsal]
  · simp only [run, run']
    rw [runner_rehearsal, runner_rehearsal]

end Config

end ProfiledBuild
