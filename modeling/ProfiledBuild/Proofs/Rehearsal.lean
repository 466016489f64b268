import ProfiledBuild.Proofs.Lifecycle
import ProfiledBuild.Runner.Recording

/-! Rehearsals. The runner answers from its script and only keeps what it is given, so that runs
which share one runner and one sink cannot get in each other's way. -/

namespace ProfiledBuild

structure StageReport where
  stage : Stage
  command : String
  status : StageStatus
  exit : Option Exit
  error : Option String
  deriving DecidableEq

structure Report where
  workload : Workload
  state : RunState
  results : List StageReport
  failure : Option Failure
  exitCode : Int32
  deriving DecidableEq

def StageResult.report (r : StageResult) : StageReport :=
  ⟨r.stage, r.command, r.status, r.exit, r.error⟩

def Run.report (r : Run) : Report :=
  ⟨r.workload, r.state, r.results.map StageResult.report, r.failure, r.exitCode⟩

namespace Event

def hide (key : String) (value : Json) : Json :=
  if key = "run_id" ∨ key = "duration_ms" then .null else value

def hidden (fields : Json.Fields) : Json.Fields :=
  fields.map fun (key, value) => (key, hide key value)

/-- An event without its time, with its run id and its duration hidden. -/
def masked (e : Event) : String × Json.Fields := (e.type, hidden e.data)

/-- Hiding leaves the keys as they are, and so a field keeps its place. -/
theorem hidden_insert (key : String) (value : Json) (fields : Json.Fields) :
    hidden (fields.insert key value) = (hidden fields).insert key (hide key value) := by
  induction fields with
  | nil => rfl
  | cons field rest ih =>
    obtain ⟨k, v⟩ := field
    rw [hidden] at ih ⊢
    by_cases hk : key = k
    · simp [Json.Fields.insert, hidden, hk]
    · by_cases hb : Json.before key k = true
      · simp [Json.Fields.insert, hidden, hk, hb]
      · simpa [Json.Fields.insert, hidden, hk, hb] using ih

@[simp] theorem masked_addData (e : Event) (key : String) (value : Json) :
    (e.addData key value).masked = (e.masked.1, e.masked.2.insert key (hide key value)) :=
  Prod.ext rfl (hidden_insert key value e.data)

@[simp] theorem masked_ofType (type : String) (now : Timestamp) :
    (ofType type now).masked = (type, []) := rfl

@[simp] theorem hide_runId (id : Json) : hide "run_id" id = .null := rfl

@[simp] theorem hide_durationMs (duration : Json) : hide "duration_ms" duration = .null := rfl

end Event

namespace Run

theorem masked_stageEvents {r r' : Run} (hreport : r.report = r'.report)
    {results results' : List StageResult}
    (hresults : results.map StageResult.report = results'.map StageResult.report)
    (clock clock' : Clock) (ticks ticks' : Nat) :
    (r.stageEvents clock results ticks).map Event.masked =
      (r'.stageEvents clock' results' ticks').map Event.masked := by
  have htext : r.failureText = r'.failureText :=
    congrArg (fun s : Report => (s.failure.map Failure.message).getD "") hreport
  have hcode : r.exitCode = r'.exitCode := congrArg Report.exitCode hreport
  induction results generalizing results' ticks ticks' with
  | nil =>
    rw [List.map_nil, List.nil_eq, List.map_eq_nil_iff] at hresults
    rw [hresults]
    rfl
  | cons result rest ih =>
    obtain ⟨result', rest', rfl, hfirst, hrest⟩ := List.map_eq_cons_iff.mp hresults.symm
    have hmore := ih hrest.symm (ticks + Visit.readings) (ticks' + Visit.readings)
    simp only [StageResult.report, StageReport.mk.injEq] at hfirst
    obtain ⟨hstage, hcommand, hstatus, -⟩ := hfirst
    have hsuccess : result'.isSuccess = result.isSuccess :=
      congrArg StageStatus.isSuccess hstatus
    simp only [stageEvents, List.map_cons, hmore, hstage, hcommand, hsuccess, htext, hcode]
    cases result.isSuccess <;>
      simp [Event.stageStarted, Event.stageCompleted, Event.stageFailed]

/-- Two records that tell the same have the same events, ids and times apart. -/
theorem masked_trace {r r' : Run} (hreport : r.report = r'.report) (clock clock' : Clock)
    (ticks ticks' : Nat) :
    (r.trace clock ticks).map Event.masked = (r'.trace clock' ticks').map Event.masked := by
  have hworkload : r.workload = r'.workload := congrArg Report.workload hreport
  have hcode : r.exitCode = r'.exitCode := congrArg Report.exitCode hreport
  have hsuccess : r.isSuccess = r'.isSuccess :=
    congrArg (fun s : Report => decide (s.state = .done)) hreport
  have hstages := masked_stageEvents hreport (congrArg Report.results hreport) clock clock'
    (ticks + 2) (ticks' + 2)
  have hending (ticks ticks' : Nat) :
      (r.ending clock ticks).masked = (r'.ending clock' ticks').masked := by
    rw [ending, ending, hsuccess, hcode]
    cases r'.isSuccess <;> simp [Event.pipelineCompleted, Event.pipelineFailed]
  simp only [trace, List.map_cons, List.map_append, List.map_nil, hstages, hworkload]
  simpa [Event.pipelineStarted] using hending _ _

end Run

namespace Call

def failure (c : Call) : Option Failure := Pipeline.failureOf c.command.stage c.outcome

def report (c : Call) : StageReport :=
  ⟨c.command.stage, c.command.display, StageResult.statusOf c.outcome, c.outcome.toOption,
    StageResult.errorOf c.outcome⟩

end Call

def Report.ofCalls (w : Workload) (calls : List Call) : Report :=
  let failure := calls.findSome? Call.failure
  { workload := w
    state := if failure = none then .done else .failed
    results := calls.map Call.report
    failure := failure
    exitCode := (failure.map Failure.exitCode).getD 0 }

namespace Pipeline

theorem report_run (p : Pipeline σ) (w : Workload) (id : RunId) (s : σ) (ticks : Nat) :
    (p.run w id s ticks).run.report = .ofCalls w (p.calls w id s ticks) := by
  have hstop : (p.calls w id s ticks).findSome? Call.failure = stop (p.allVisits w s ticks) := by
    rw [calls_eq, List.findSome?_map]
    rfl
  have hresults : (p.closed w id s ticks).results.map StageResult.report =
      (p.calls w id s ticks).map Call.report := by
    rw [results_closed, calls_eq, List.map_map, List.map_map]
    rfl
  rw [(p.run_spec w id s ticks).1, Run.report, Report.ofCalls, hresults, hstop, workload_closed,
    state_closed, failure_closed, exitCode_closed]
  cases stop (p.allVisits w s ticks) <;> rfl

end Pipeline

namespace Recording

/-- The commands called one after another, up to the first that does not succeed. -/
def calls (r : Recording) : List StageCommand → List Call
  | [] => []
  | command :: rest =>
    let call : Call := ⟨command, r.outcome command⟩
    call :: if call.failure = none then calls r rest else []

def keeping (r : Recording) (commands : List StageCommand) : Recording :=
  { r with commands := r.commands ++ commands }

/-- A runner with the same script that has been given nothing. -/
def fresh (r : Recording) : Recording := { r with commands := [] }

theorem calls_keeping (r : Recording) (commands plan : List StageCommand) :
    (r.keeping commands).calls plan = r.calls plan := by
  induction plan with
  | nil => rfl
  | cons command rest ih =>
    rw [calls, calls, ih]
    rfl

theorem outcome_of_mem_calls (r : Recording) {plan : List StageCommand} {call : Call}
    (h : call ∈ r.calls plan) : call.outcome = r.outcome call.command := by
  induction plan with
  | nil => exact absurd h List.not_mem_nil
  | cons command rest ih =>
    rw [calls, List.mem_cons] at h
    rcases h with rfl | h
    · rfl
    · split at h
      · exact ih h
      · exact absurd h List.not_mem_nil

theorem keeping_keeping (r : Recording) (commands more : List StageCommand) :
    (r.keeping commands).keeping more = r.keeping (commands ++ more) :=
  congrArg (mk r.exits r.errors) (List.append_assoc ..)

theorem calls_fresh (r : Recording) (plan : List StageCommand) :
    r.fresh.calls plan = r.calls plan :=
  (calls_keeping r.fresh r.commands plan).symm

end Recording

namespace Pipeline

def rehearsal (config : Config) (sink : Sink) (clock : Clock) : Pipeline Recording :=
  ⟨config, sink, Recording.run, clock⟩

section

variable (config : Config) (sink : Sink) (clock : Clock) (w : Workload)

theorem visits_rehearsal (stages : List Stage) (r : Recording) (ticks : Nat) :
    let vs := (rehearsal config sink clock).visits w stages r ticks
    vs.map Visit.call = r.calls (stages.map (config.commandFor w)) ∧
      stateAfter r vs = r.keeping (vs.map Visit.command) := by
  induction stages generalizing r ticks with
  | nil => exact ⟨rfl, congrArg (Recording.mk _ _) (List.append_nil _).symm⟩
  | cons stage rest ih =>
    have hanswer : ((rehearsal config sink clock).visit w stage r ticks).failure =
        (Call.mk (config.commandFor w stage) (r.outcome (config.commandFor w stage))).failure := rfl
    rw [List.map_cons, Recording.calls, ← hanswer]
    cases hf : ((rehearsal config sink clock).visit w stage r ticks).failure with
    | some failure =>
      rw [visits_of_failure _ rest hf]
      exact ⟨rfl, rfl⟩
    | none =>
      obtain ⟨hcalls, hstate⟩ := ih (r.keeping [config.commandFor w stage])
        (ticks + Visit.readings)
      rw [Recording.calls_keeping] at hcalls
      rw [Recording.keeping_keeping] at hstate
      rw [visits_of_success _ rest hf]
      exact ⟨congrArg (_ :: ·) hcalls, hstate⟩

theorem outcome_rehearsal {r : Recording} {ticks : Nat} {outcome : Outcome}
    (hr : ∀ command, r.outcome command = outcome) {v : Visit Recording}
    (hv : v ∈ (rehearsal config sink clock).allVisits w r ticks) : v.outcome = outcome := by
  have hcalls := (visits_rehearsal config sink clock w Stage.all r (ticks + 2)).1
  have hcall : v.call ∈ r.calls (config.plan w) := by
    rw [Config.plan, ← hcalls]
    exact List.mem_map_of_mem hv
  exact (r.outcome_of_mem_calls hcall).trans (hr v.command)

variable (id : RunId) (r : Recording) (ticks : Nat)

theorem calls_rehearsal :
    (rehearsal config sink clock).calls w id r ticks = r.calls (config.plan w) := by
  rw [calls_eq]
  exact (visits_rehearsal config sink clock w Stage.all r (ticks + 2)).1

theorem report_rehearsal :
    ((rehearsal config sink clock).run w id r ticks).run.report =
      .ofCalls w (r.calls (config.plan w)) := by
  rw [report_run, calls_rehearsal]

theorem runner_rehearsal :
    ((rehearsal config sink clock).run w id r ticks).runner =
      r.keeping ((r.calls (config.plan w)).map Call.command) := by
  obtain ⟨hcalls, hstate⟩ := visits_rehearsal config sink clock w Stage.all r (ticks + 2)
  have hcommands := congrArg (List.map Call.command) hcalls
  rw [List.map_map] at hcommands
  rw [runner_run]
  exact hstate.trans (congrArg r.keeping hcommands)

end

end Pipeline

/-- The store of a sink after some notices. What the sink keeps goes behind what is there. -/
def Sink.store (sink : Sink) (stored : List Event) (notices : List Notice) : List Event :=
  notices.foldl (fun stored notice => stored ++ sink.kept notice) stored

theorem Sink.store_eq (sink : Sink) (stored : List Event) (notices : List Notice) :
    sink.store stored notices = stored ++ notices.flatMap sink.kept := by
  induction notices generalizing stored with
  | nil => exact (List.append_nil stored).symm
  | cons notice rest ih =>
    rw [List.flatMap_cons, ← List.append_assoc]
    exact ih (stored ++ sink.kept notice)

/-- What one run leaves: what it tells, the commands that its runner did not have before, and what
a sink of its own would hold. -/
structure Segment where
  report : Report
  commands : List StageCommand
  events : List (String × Json.Fields)

namespace Segment

def ofRun (before : Recording) (g : Progress Recording) : Segment where
  report := g.run.report
  commands := g.runner.commands.drop before.commands.length
  events := (Sink.collecting.store [] g.notices).map Event.masked

def ofRuns (before : Recording) : List (Progress Recording) → List Segment
  | [] => []
  | g :: gs => ofRun before g :: ofRuns g.runner gs

/-- However runs are cut into segments, a sink that they share holds the events of all. -/
theorem events_ofRuns (before : Recording) (gs : List (Progress Recording))
    (stored : List Event) :
    (Sink.collecting.store stored (gs.flatMap Progress.notices)).map Event.masked =
      stored.map Event.masked ++ (ofRuns before gs).flatMap Segment.events := by
  induction gs generalizing before stored with
  | nil => exact (List.append_nil _).symm
  | cons g rest ih =>
    have hfirst : (ofRun before g).events =
        (g.notices.flatMap Sink.collecting.kept).map Event.masked := by
      rw [ofRun, Sink.store_eq, List.nil_append]
    have hrest := ih g.runner (Sink.collecting.store stored g.notices)
    rw [List.flatMap_cons, Sink.store, List.foldl_append]
    refine hrest.trans ?_
    rw [Sink.store_eq, List.map_append, List.append_assoc, ← hfirst, ofRuns, List.flatMap_cons]

end Segment

namespace Config

open Pipeline

variable (config : Config)

/-- A run that comes after others leaves the same as one with a fresh runner. -/
theorem segment_rehearsal (sink sink' : Sink) (clock clock' : Clock) (w : Workload)
    (id id' : RunId) (r : Recording) (ticks ticks' : Nat) :
    Segment.ofRun r ((rehearsal config sink clock).run w id r ticks) =
      Segment.ofRun r.fresh ((rehearsal config sink' clock').run w id' r.fresh ticks') := by
  have hreport : ((rehearsal config sink clock).run w id r ticks).run.report =
      ((rehearsal config sink' clock').run w id' r.fresh ticks').run.report := by
    rw [report_run, report_run, calls_rehearsal, calls_rehearsal, Recording.calls_fresh]
  have hcommands :
      ((rehearsal config sink clock).run w id r ticks).runner.commands.drop r.commands.length =
        ((rehearsal config sink' clock').run w id' r.fresh ticks').runner.commands.drop
          r.fresh.commands.length := by
    rw [runner_rehearsal, runner_rehearsal, Recording.calls_fresh]
    exact List.drop_left
  have hevents : (Sink.collecting.store []
        ((rehearsal config sink clock).run w id r ticks).notices).map Event.masked =
      (Sink.collecting.store []
        ((rehearsal config sink' clock').run w id' r.fresh ticks').notices).map Event.masked := by
    have htrace := (rehearsal config sink clock).events_eq_trace w id r ticks
    have htrace' := (rehearsal config sink' clock').events_eq_trace w id' r.fresh ticks'
    rw [Progress.events] at htrace htrace'
    rw [Sink.store_eq, Sink.store_eq, Sink.kept_collecting, Sink.kept_collecting, List.nil_append,
      List.nil_append, htrace, htrace']
    exact Run.masked_trace hreport _ _ _ _
  rw [Segment.ofRun, Segment.ofRun, hreport, hcommands, hevents]

theorem fresh_runner (sink : Sink) (clock : Clock) (w : Workload) (id : RunId) (r : Recording)
    (ticks : Nat) : ((rehearsal config sink clock).run w id r ticks).runner.fresh = r.fresh := by
  rw [runner_rehearsal]
  rfl

theorem ofRuns_runAll {alone : Workload → Segment} {script : Recording} (sink : Sink)
    (clock : Clock)
    (halone : ∀ w id r ticks, r.fresh = script.fresh →
      Segment.ofRun r ((rehearsal config sink clock).run w id r ticks) = alone w)
    (ws : List (Workload × RunId)) {r : Recording} (hr : r.fresh = script.fresh) (ticks : Nat) :
    Segment.ofRuns r ((rehearsal config sink clock).runAll ws r ticks) =
      ws.map fun w => alone w.1 := by
  induction ws generalizing r ticks with
  | nil => rfl
  | cons w rest ih =>
    have hfirst := halone w.1 w.2 r ticks hr
    have hrest := (config.fresh_runner sink clock w.1 w.2 r ticks).trans hr
    rw [runAll, Segment.ofRuns, hfirst, ih hrest, List.map_cons]

theorem runner_runAll (sink : Sink) (clock : Clock) (ws : List (Workload × RunId)) (r : Recording)
    (ticks : Nat) :
    let gs := (rehearsal config sink clock).runAll ws r ticks
    gs.foldl (fun _ g => g.runner) r =
      r.keeping ((Segment.ofRuns r gs).flatMap Segment.commands) := by
  induction ws generalizing r ticks with
  | nil => exact congrArg (Recording.mk _ _) (List.append_nil _).symm
  | cons w rest ih =>
    have hrunner := runner_rehearsal config sink clock w.1 w.2 r ticks
    have hcommands : (Segment.ofRun r
        ((rehearsal config sink clock).run w.1 w.2 r ticks)).commands =
          (r.calls (config.plan w.1)).map Call.command := by
      rw [Segment.ofRun, hrunner]
      exact List.drop_left
    have hrest := ih ((rehearsal config sink clock).run w.1 w.2 r ticks).runner
      ((rehearsal config sink clock).run w.1 w.2 r ticks).ticks
    refine hrest.trans ?_
    rw [runAll, Segment.ofRuns, List.flatMap_cons, hcommands, ← Recording.keeping_keeping,
      ← hrunner]

/-- Runs one after another, and what each of them leaves alone. A run leaves the same after others
as with a fresh runner, and the runner and the sink that they share hold it all, run by run. -/
theorem runs_apart (script : Recording) (clock : Clock) (ws : List (Workload × RunId))
    (ticks : Nat) (stored : List Event) (clocks : Workload → Clock) (ids : Workload → RunId)
    (times : Workload → Nat) :
    let p := rehearsal config .collecting clock
    let alone (w : Workload) : Segment := Segment.ofRun script.fresh
      ((rehearsal config .collecting (clocks w)).run w (ids w) script.fresh (times w))
    let gs := p.runAll ws script ticks
    Segment.ofRuns script gs = ws.map (fun w => alone w.1) ∧
      gs.foldl (fun _ g => g.runner) script =
        script.keeping (ws.flatMap fun w => (alone w.1).commands) ∧
      (Sink.collecting.store stored (gs.flatMap Progress.notices)).map Event.masked =
        stored.map Event.masked ++ ws.flatMap (fun w => (alone w.1).events) ∧
      ∀ ws' : List (Workload × RunId), (ws.map Prod.fst).Perm (ws'.map Prod.fst) →
        (Segment.ofRuns script gs).Perm (Segment.ofRuns script (p.runAll ws' script ticks)) := by
  intro p alone gs
  have hsegments (ws : List (Workload × RunId)) :
      Segment.ofRuns script (p.runAll ws script ticks) = ws.map fun w => alone w.1 := by
    refine config.ofRuns_runAll .collecting clock (fun w id r ticks hr => ?_) ws rfl ticks
    rw [config.segment_rehearsal .collecting .collecting clock (clocks w) w id (ids w) r ticks
      (times w), hr]
  have hruns : Segment.ofRuns script gs = ws.map fun w => alone w.1 := hsegments ws
  have hrunner : gs.foldl (fun _ g => g.runner) script =
      script.keeping ((Segment.ofRuns script gs).flatMap Segment.commands) :=
    config.runner_runAll .collecting clock ws script ticks
  have hstore := Segment.events_ofRuns script gs stored
  rw [hruns, List.flatMap_map] at hrunner hstore
  refine ⟨hruns, hrunner, hstore, fun ws' hws => ?_⟩
  have hperm := hws.map alone
  rw [List.map_map, List.map_map] at hperm
  rw [hruns, hsegments ws']
  exact hperm

/-- The instrumented binary is missing. -/
def missingBinary : Recording := Recording.untold.withMissing .profilingRun

def twoRuns : List (Workload × RunId) :=
  [(⟨Path.ofString "first", by decide⟩, .ofRandom 0 1),
    (⟨Path.ofString "second", by decide⟩, .ofRandom 0 2)]

theorem missingBinary_runs_apart :
    let p := rehearsal .default .collecting fun _ => Inhabited.default
    (twoRuns.map Prod.fst).Perm (twoRuns.reverse.map Prod.fst) ∧
      (Segment.ofRuns missingBinary (p.runAll twoRuns missingBinary 0)).Perm
        (Segment.ofRuns missingBinary (p.runAll twoRuns.reverse missingBinary 0)) ∧
      ((p.runAll twoRuns missingBinary 0).foldl (fun _ g => g.runner) missingBinary).stages =
        [.instrumentedBuild, .profilingRun, .instrumentedBuild, .profilingRun] := by
  intro p
  have hperm : (twoRuns.map Prod.fst).Perm (twoRuns.reverse.map Prod.fst) :=
    (List.reverse_perm twoRuns).symm.map Prod.fst
  obtain ⟨-, hrunner, -, hsegments⟩ := runs_apart .default missingBinary
    (fun _ => Inhabited.default) twoRuns 0 [] (fun _ _ => Inhabited.default)
    (fun _ => .ofRandom 0 0) (fun _ => 0)
  refine ⟨hperm, hsegments _ hperm, ?_⟩
  rw [hrunner]
  simp only [Segment.ofRun, runner_rehearsal]
  decide

end Config

end ProfiledBuild
