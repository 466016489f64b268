import ProfiledBuild.Proofs.EventLog

/-! The levels at which events are logged. A logging sink writes at one of two levels, whatever
level it is made for, so that it keeps to its level only if it is made for one of these. -/

namespace ProfiledBuild

namespace Log

/-- All that is written are records, and all of them are at one level. -/
def AllAt (level : Level) (log : List Entry) : Prop :=
  ∀ e ∈ log, ∃ r, e = .record r ∧ r.level = level

theorem allAt_inside_iff {level : Level} {span : Span} {log : List Entry} :
    AllAt level (log.map (·.inside span)) ↔ AllAt level log := by
  rw [AllAt, List.forall_mem_map]
  refine forall₂_congr fun e _ => ?_
  cases e with
  | raw octets => simp [Entry.inside]
  | record r => simp [Entry.inside, Record.inside]

end Log

namespace Sink

open Log

/-- What a sink writes of the events that it is given. -/
def written (sink : Sink) (events : List Event) : List Entry :=
  events.flatMap fun e => sink.entries (.event e)

theorem written_logging (level : Level) (events : List Event) :
    (logging level).written events = events.map fun e => .record (record level e) :=
  List.map_eq_flatMap.symm

theorem allAt_written (level : Level) (events : List Event) :
    AllAt (recordLevel level) ((logging level).written events) := by
  intro e he
  rw [written_logging] at he
  obtain ⟨event, -, rfl⟩ := List.mem_map.mp he
  exact ⟨record level event, rfl, rfl⟩

theorem recordLevel_eq_iff {level : Level} :
    recordLevel level = level ↔ level = .debug ∨ level = .info := by
  cases level <;> decide

theorem allAt_written_iff {level : Level} {events : List Event} :
    AllAt level ((logging level).written events) ↔
      events = [] ∨ level = .debug ∨ level = .info := by
  rw [← recordLevel_eq_iff]
  cases events with
  | nil => exact iff_of_true (fun _ he => absurd he List.not_mem_nil) (Or.inl rfl)
  | cons event rest =>
    rw [or_iff_right (List.cons_ne_nil event rest)]
    constructor
    · intro h
      obtain ⟨r, hr, hlevel⟩ := h (.record (record level event)) List.mem_cons_self
      cases hr
      exact hlevel
    · intro h
      simpa only [h] using allAt_written level (event :: rest)

/-- A logging sink adds its records to a log and takes nothing away. -/
theorem entries_perm (level : Level) (notices : List Notice) :
    (notices.flatMap (logging level).entries).Perm
      ((logging level).written (notices.filterMap Notice.event?) ++
        notices.flatMap discarding.entries) := by
  induction notices with
  | nil => exact .nil
  | cons notice rest ih =>
    cases notice with
    | event e => exact ih.cons _
    | log e => exact (ih.cons e).trans List.perm_middle.symm

end Sink

namespace Pipeline

open Log

theorem events_run_ne_nil (p : Pipeline σ) (w : Workload) (id : RunId) (s : σ) (ticks : Nat) :
    (p.run w id s ticks).events ≠ [] := by
  rw [(p.run_spec w id s ticks).2]
  exact List.cons_ne_nil _ _

/-- A sink that logs at a level writes at that level if it is debugging or information, and else for
information. In a run it always writes. -/
theorem event_levels (p : Pipeline σ) (level : Level) (events : List Event) (w : Workload)
    (id : RunId) (s : σ) (ticks : Nat) :
    let sink := Sink.logging level
    let g := (p.withSink sink).run w id s ticks
    let added := (sink.written g.events).map (·.inside (span g.run))
    AllAt (if level = .debug then .debug else .info) (sink.written events) ∧
      (AllAt level (sink.written events) ↔ events = [] ∨ level = .debug ∨ level = .info) ∧
      ((p.withSink sink).log g).Perm (added ++ (p.withSink .discarding).log g) ∧
      AllAt (if level = .debug then .debug else .info) added ∧
      (AllAt level added ↔ level = .debug ∨ level = .info) := by
  intro sink g added
  refine ⟨Sink.allAt_written level events, Sink.allAt_written_iff, ?_, ?_, ?_⟩
  · have hperm := (Sink.entries_perm level g.notices).map (·.inside (span g.run))
    rwa [List.map_append] at hperm
  · exact allAt_inside_iff.mpr (Sink.allAt_written level g.events)
  · rw [allAt_inside_iff, Sink.allAt_written_iff,
      or_iff_right (events_run_ne_nil (p.withSink sink) w id s ticks)]

/-- An event that is logged at the level of errors reaches the log as information. -/
theorem errors_logged_as_information :
    let log := (Sink.logging .error).written [Event.pipelineFailed "run-1" 3 default]
    AllAt .info log ∧ ¬AllAt .error log := by
  refine ⟨Sink.allAt_written .error _, fun h => ?_⟩
  rcases Sink.allAt_written_iff.mp h with h | h | h
  · cases h
  · cases h
  · cases h

end Pipeline

end ProfiledBuild
