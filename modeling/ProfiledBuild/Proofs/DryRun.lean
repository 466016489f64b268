import ProfiledBuild.Proofs.Rehearsal
import ProfiledBuild.Proofs.Text.Utf8
import ProfiledBuild.Runner.DryRun

/-! The dry run prints the plan of a run. Whoever else is given commands, records them or hears of
them comes to the same lines, as far as the run gets. -/

namespace ProfiledBuild

namespace Console

/-- The next `n` operations succeed. -/
def Sound (c : Console) (n : Nat) : Prop := ∀ i < n, c.faultAt i = none

/-- The operation after the next `n` is the first that fails. -/
def FailsAt (c : Console) (n : Nat) (fault : Fault) : Prop :=
  c.Sound n ∧ c.faultAt n = some fault

instance (c : Console) (n : Nat) : Decidable (c.Sound n) :=
  inferInstanceAs (Decidable (∀ i < n, c.faultAt i = none))

instance (c : Console) (n : Nat) (fault : Fault) : Decidable (c.FailsAt n fault) :=
  inferInstanceAs (Decidable (c.Sound n ∧ c.faultAt n = some fault))

def page (texts : List String) : Octets := texts.flatMap line

theorem page_eq (texts : List String) :
    page texts = Utf8.encode (String.join (texts.map (· ++ "\n"))) := by
  induction texts with
  | nil => rfl
  | cons text rest ih =>
    rw [List.map_cons, String.join_cons, Utf8.encode_append, ← ih]
    rfl

theorem written_of_out {c : Console} {texts : List String} (h : c.out = page texts) :
    c.written = String.join (texts.map (· ++ "\n")) := by
  rw [written, h, page_eq, Utf8.lossy_encode]

theorem faultAt_after (c : Console) (octets : Octets) (n : Nat) :
    (c.after octets).faultAt n = c.faultAt (n + 1) := by
  rw [faultAt, faultAt, after, List.getElem?_tail]

variable {c : Console} {fault : Fault} (text : String)

theorem write_of_none (h : c.faultAt 0 = none) (octets : Octets) :
    c.write octets = (.ok (), c.after octets) := by
  rw [write, h]

theorem flush_of_none (h : c.faultAt 0 = none) : c.flush = (.ok (), c.after []) := by
  rw [flush, h]

theorem writeLine_of_sound (h : c.Sound 2) :
    c.writeLine text = (.ok (), (c.after (line text)).after []) := by
  have hwrite := write_of_none (h 0 (by decide)) (line text)
  have hflush : (c.after (line text)).faultAt 0 = none := by
    rw [faultAt_after]
    exact h 1 (by decide)
  rw [writeLine, hwrite]
  exact flush_of_none hflush

theorem writeLine_unwritten (h : c.FailsAt 0 fault) :
    c.writeLine text = (.error fault.error, c.after ((line text).take fault.through)) := by
  rw [writeLine, write, h.2]

theorem writeLine_unflushed (h : c.FailsAt 1 fault) :
    c.writeLine text = (.error fault.error, (c.after (line text)).after []) := by
  have hwrite := write_of_none (h.1 0 (by decide)) (line text)
  have hflush : (c.after (line text)).faultAt 0 = some fault := by
    rw [faultAt_after]
    exact h.2
  rw [writeLine, hwrite]
  simp only [flush, hflush]

theorem FailsAt.shift {c' : Console} {n k : Nat} (h : c.FailsAt (n + k) fault)
    (hc : ∀ i, c'.faultAt i = c.faultAt (n + i)) : c'.FailsAt k fault := by
  constructor
  · intro i hi
    rw [hc]
    exact h.1 (n + i) (by omega)
  · rw [hc]
    exact h.2

end Console

/-- A command made of texts shows them as they are, with blanks between them. -/
theorem StageCommand.display_texts (stage : Stage) (program : String) (args : List String) :
    display ⟨stage, Path.ofString program, args.map Utf8.encode⟩ =
      String.join (program :: args.map (" " ++ ·)) := by
  have hprogram : Utf8.lossy (Utf8.encode program) = program := Utf8.lossy_encode program
  have hargs : (args.map Utf8.encode).map (fun a => " " ++ Utf8.lossy a) =
      args.map (" " ++ ·) := by
    rw [List.map_map]
    exact List.map_congr_left fun arg _ => congrArg (" " ++ ·) (Utf8.lossy_encode arg)
  rw [display, programName, Path.display, Path.ofString, hprogram, hargs]

def Config.lineOf (config : Config) (w : Workload) (stage : Stage) : String :=
  (config.commandFor w stage).display

def Config.lines (config : Config) (w : Workload) : List String :=
  Stage.all.map (config.lineOf w)

namespace Run

/-- A run that an error of the system has ended. -/
structure Broken (r : Run) (error : SystemError) : Prop where
  state : r.state = .failed
  failure : r.failure = some (.system error)
  exitCode : r.exitCode = 1

end Run

namespace Pipeline

def printing (config : Config) (sink : Sink) (clock : Clock) : Pipeline Console :=
  ⟨config, sink, dryRun, clock⟩

section

variable (config : Config) (sink : Sink) (clock : Clock) (w : Workload)

theorem visit_printing_sound (stage : Stage) {c : Console} (h : c.Sound 2) (ticks : Nat) :
    let v := (printing config sink clock).visit w stage c ticks
    v.failure = none ∧
      v.answer.state = (c.after (Console.line (config.lineOf w stage))).after [] := by
  intro v
  have hanswer : v.answer = dryRun c (config.commandFor w stage) := rfl
  rw [Visit.failure_eq_none_iff, Visit.outcome, hanswer, dryRun, Console.writeLine_of_sound _ h]
  exact ⟨rfl, rfl⟩

theorem visit_printing_faulty (stage : Stage) {c c' : Console} {error : SystemError}
    (h : c.writeLine (config.lineOf w stage) = (.error error, c')) (ticks : Nat) :
    let v := (printing config sink clock).visit w stage c ticks
    v.failure = some (.system error) ∧ v.answer.state = c' := by
  intro v
  have hanswer : v.answer = dryRun c (config.commandFor w stage) := rfl
  have hwrite : c.writeLine (config.commandFor w stage).display = (.error error, c') := h
  rw [Visit.failure, Visit.outcome, hanswer, dryRun, hwrite]
  exact ⟨rfl, rfl⟩

/-- Where the console takes the first lines, the visits to their stages are as good as over. -/
theorem visits_printing (before rest : List Stage) {c : Console}
    (h : c.Sound (2 * before.length)) (ticks : Nat) :
    let p := printing config sink clock
    ∃ c' ticks', c'.out = c.out ++ Console.page (before.map (config.lineOf w)) ∧
      (∀ i, c'.faultAt i = c.faultAt (2 * before.length + i)) ∧
      stop (p.visits w (before ++ rest) c ticks) = stop (p.visits w rest c' ticks') ∧
      stateAfter c (p.visits w (before ++ rest) c ticks) =
        stateAfter c' (p.visits w rest c' ticks') := by
  intro p
  induction before generalizing c ticks with
  | nil => exact ⟨c, ticks, (List.append_nil _).symm, fun i => by simp, rfl, rfl⟩
  | cons stage before ih =>
    rw [List.length_cons] at h
    have hsound : c.Sound 2 := fun i hi => h i (by omega)
    obtain ⟨hfailure, hstate⟩ := visit_printing_sound config sink clock w stage hsound ticks
    have hfault (i : Nat) : ((c.after (Console.line (config.lineOf w stage))).after []).faultAt i =
        c.faultAt (i + 2) := by
      rw [Console.faultAt_after, Console.faultAt_after]
    have hmore : ((c.after (Console.line (config.lineOf w stage))).after []).Sound
        (2 * before.length) := by
      intro i hi
      rw [hfault]
      exact h (i + 2) (by omega)
    obtain ⟨c', ticks', hout, hfaults, hstop, hafter⟩ := ih hmore (ticks + Visit.readings)
    have hvisits : p.visits w (stage :: before ++ rest) c ticks = _ :=
      p.visits_of_success (before ++ rest) hfailure
    rw [hstate] at hvisits
    refine ⟨c', ticks', ?_, fun i => ?_, ?_, ?_⟩
    · rw [hout, List.map_cons]
      simp [Console.page, Console.after]
    · rw [hfaults, hfault, List.length_cons]
      exact congrArg c.faultAt (by omega)
    · rw [hvisits, stop, List.findSome?_cons, hfailure]
      exact hstop
    · rw [hvisits, stateAfter, List.foldl_cons, hstate]
      exact hafter

theorem broken_of_stop {c : Console} {ticks : Nat} {error : SystemError}
    (h : stop ((printing config sink clock).allVisits w c ticks) = some (.system error))
    (id : RunId) : ((printing config sink clock).run w id c ticks).run.Broken error := by
  rw [(run_spec _ w id c ticks).1]
  constructor
  case state => rw [state_closed, h]
  case failure => rw [failure_closed, h]
  case exitCode =>
    rw [exitCode_closed, h]
    rfl

theorem run_printing_sound {c : Console} (h : c.Sound (2 * Stage.all.length)) (id : RunId)
    (ticks : Nat) :
    let g := (printing config sink clock).run w id c ticks
    g.run.state = .done ∧ g.run.exitCode = 0 ∧
      g.runner.out = c.out ++ Console.page (config.lines w) := by
  intro g
  obtain ⟨c', ticks', hout, -, hstop, hafter⟩ :=
    visits_printing config sink clock w Stage.all [] h (ticks + 2)
  rw [List.append_nil] at hstop hafter
  have hdone : stop ((printing config sink clock).allVisits w c ticks) = none := hstop
  have hrun : g.run = (printing config sink clock).closed w id c ticks :=
    (run_spec _ w id c ticks).1
  have hrunner : g.runner = c' := (runner_run _ w id c ticks).trans hafter
  rw [hrun, hrunner, state_closed, exitCode_closed, hdone]
  exact ⟨rfl, rfl, hout⟩

/-- The lines before a line that cannot be printed are all out, and no line after it is. -/
theorem run_printing_until {c : Console} {k : Nat} {text : String} {error : SystemError}
    {part : Octets} (hk : (config.lines w)[k]? = some text) (h : c.Sound (2 * k))
    (hfaulty : ∀ c' : Console, (∀ i, c'.faultAt i = c.faultAt (2 * k + i)) →
      (c'.writeLine text).1 = .error error ∧ (c'.writeLine text).2.out = c'.out ++ part)
    (id : RunId) (ticks : Nat) :
    let g := (printing config sink clock).run w id c ticks
    g.run.Broken error ∧
      g.runner.out = c.out ++ Console.page ((config.lines w).take k) ++ part := by
  intro g
  rw [Config.lines, List.getElem?_map, Option.map_eq_some_iff] at hk
  obtain ⟨stage, hstage, rfl⟩ := hk
  obtain ⟨hlt, hget⟩ := List.getElem?_eq_some_iff.mp hstage
  have hlength : (Stage.all.take k).length = k := List.length_take_of_le (Nat.le_of_lt hlt)
  have hsplit : Stage.all = Stage.all.take k ++ stage :: Stage.all.drop (k + 1) := by
    rw [← hget, List.getElem_cons_drop, List.take_append_drop]
  rw [← hlength] at h
  obtain ⟨c', ticks', hout, hfaults, hstop, hafter⟩ :=
    visits_printing config sink clock w (Stage.all.take k) (stage :: Stage.all.drop (k + 1)) h
      (ticks + 2)
  rw [← hsplit] at hstop hafter
  rw [hlength] at hfaults
  obtain ⟨herror, hpart⟩ := hfaulty c' hfaults
  obtain ⟨hfailure, hstate⟩ :=
    visit_printing_faulty config sink clock w stage (Prod.ext herror rfl) ticks'
  rw [visits_of_failure _ _ hfailure] at hstop hafter
  have hlast : stop [(printing config sink clock).visit w stage c' ticks'] =
      some (.system error) := by
    rw [stop, List.findSome?_cons, hfailure]
  have hrunner : g.runner = (c'.writeLine (config.lineOf w stage)).2 :=
    ((runner_run _ w id c ticks).trans hafter).trans hstate
  refine ⟨broken_of_stop config sink clock w (hstop.trans hlast) id, ?_⟩
  rw [hrunner, hpart, hout, Config.lines, List.map_take]

end

end Pipeline

open Pipeline

/-- The lines of a plan, wherever they show up. -/
structure Planned (config : Config) (w : Workload) (lines : List String) : Prop where
  three : lines.length = 3
  rehearsed : ∀ sink clock id r ticks, (∀ command, r.outcome command = .ok (.code 0)) →
    ((rehearsal config sink clock).run w id r ticks).run.isSuccess = true
  recorded : ∀ sink clock id r ticks, r.commands = [] →
    let g := (rehearsal config sink clock).run w id r ticks
    g.run.isSuccess = true → g.runner.commandLines = lines
  printed : ∀ sink clock id c ticks, c.Sound 6 →
    let g := (printing config sink clock).run w id c ticks
    g.run.state = .done ∧ g.run.exitCode = 0 ∧ g.runner.out = c.out ++ Console.page lines ∧
      (c.out = [] → g.runner.written = String.join (lines.map (· ++ "\n")))
  unwritten : ∀ sink clock id c ticks k text fault, lines[k]? = some text →
    c.FailsAt (2 * k) fault →
    let g := (printing config sink clock).run w id c ticks
    g.run.Broken fault.error ∧ g.runner.out = c.out ++ Console.page (lines.take k) ++
      (Console.line text).take fault.through
  unflushed : ∀ sink clock id c ticks k text fault, lines[k]? = some text →
    c.FailsAt (2 * k + 1) fault →
    let g := (printing config sink clock).run w id c ticks
    g.run.Broken fault.error ∧ g.runner.out = c.out ++ Console.page (lines.take (k + 1))
  handed : ∀ {σ : Type} (p : Pipeline σ) id s ticks, p.config = config →
    let g := p.run w id s ticks
    let handed := (p.calls w id s ticks).map fun c => c.command.display
    handed <+: lines ∧ g.run.results.map (·.command) = handed ∧
      ((g.notices.flatMap Sink.collecting.kept).filter (·.type = "stage.started")).map
        (·.data.find? "command") = handed.map fun text => some (.string text)

namespace Config

variable (config : Config) (w : Workload)

theorem planned_lines : Planned config w (config.lines w) := by
  have hlines : (config.plan w).map StageCommand.display = config.lines w := List.map_map ..
  constructor
  case three => rfl
  case rehearsed =>
    intro sink clock id r ticks hr
    rw [(run_spec _ w id r ticks).1, isSuccess_closed, stop, List.findSome?_eq_none_iff]
    intro v hv
    exact Visit.failure_eq_none_iff.mpr (outcome_rehearsal config sink clock w hr hv)
  case recorded =>
    intro sink clock id r ticks hr g hsuccess
    have hrun : g.run = (rehearsal config sink clock).closed w id r ticks :=
      (run_spec _ w id r ticks).1
    rw [hrun, isSuccess_closed] at hsuccess
    have hcommands := (rehearsal config sink clock).commands_of_stop_eq_none w r ticks hsuccess
    have hrunner : g.runner = r.keeping _ := runner_rehearsal config sink clock w id r ticks
    rw [← calls_rehearsal config sink clock w id r ticks, calls_map_command, hcommands] at hrunner
    rw [hrunner, Recording.commandLines, Recording.keeping, hr, List.nil_append]
    exact hlines
  case printed =>
    intro sink clock id c ticks h g
    obtain ⟨hstate, hcode, hout⟩ := run_printing_sound config sink clock w h id ticks
    refine ⟨hstate, hcode, hout, fun hc => ?_⟩
    rw [hc, List.nil_append] at hout
    exact Console.written_of_out hout
  case unwritten =>
    intro sink clock id c ticks k text fault hk h
    refine run_printing_until config sink clock w hk h.1 (fun c' hc => ?_) id ticks
    rw [Console.writeLine_unwritten text (h.shift hc)]
    exact ⟨rfl, rfl⟩
  case unflushed =>
    intro sink clock id c ticks k text fault hk h
    have hsound : c.Sound (2 * k) := fun i hi => h.1 i (by omega)
    have htake : (config.lines w).take (k + 1) = (config.lines w).take k ++ [text] := by
      rw [List.take_add_one, hk, Option.toList_some]
    rw [htake, Console.page, List.flatMap_append, List.flatMap_singleton, ← List.append_assoc]
    refine run_printing_until config sink clock w hk hsound (fun c' hc => ?_) id ticks
    rw [Console.writeLine_unflushed text (h.shift hc)]
    exact ⟨rfl, List.append_nil _⟩
  case handed =>
    intro σ p id s ticks hconfig g handed
    obtain ⟨hrun, -⟩ := p.run_spec w id s ticks
    have hhanded : handed = (p.allVisits w s ticks).map fun v => v.command.display := by
      have hcommands := congrArg (List.map StageCommand.display) (p.calls_map_command w id s ticks)
      rw [List.map_map, List.map_map] at hcommands
      exact hcommands
    have hresults : g.run.results.map (·.command) = handed := by
      rw [show g.run = _ from hrun, results_closed, hhanded, List.map_map]
      rfl
    refine ⟨?_, hresults, ?_⟩
    · have hplan := p.commands_visits w Stage.all s (ticks + 2)
      have htake := congrArg (List.map StageCommand.display) hplan
      rw [List.map_map, List.map_take] at htake
      rw [hhanded, ← hlines, ← hconfig]
      exact htake ▸ List.take_prefix _ _
    · have hevents : g.notices.flatMap Sink.collecting.kept = g.run.trace p.clock ticks :=
        (Sink.kept_collecting _).trans (p.events_eq_trace w id s ticks)
      have hstarted := congrArg (List.map Prod.snd) (g.run.started_trace p.clock ticks)
      rw [List.map_map, List.map_map] at hstarted
      rw [hevents, ← hresults, List.map_map]
      exact hstarted

/-- The disk is full in the middle of the second line. -/
def fullDisk : Console := ⟨[], [none, none, some ⟨.numbered 28, 4⟩]⟩

theorem fullDisk_printed :
    let w : Workload := ⟨Path.ofString "w", by decide⟩
    let g := (printing .default .discarding fun _ => Inhabited.default).run w (.ofRandom 0 0)
      fullDisk 0
    fullDisk.FailsAt 2 ⟨.numbered 28, 4⟩ ∧ g.run.exitCode = 1 ∧
      g.runner.out = Utf8.encode "cargo pgo build\ntarg" := by
  intro w g
  have hfails : fullDisk.FailsAt (2 * 1) ⟨.numbered 28, 4⟩ := by decide
  have hfirst : Config.default.lineOf w .instrumentedBuild = "cargo pgo build" :=
    (StageCommand.display_texts _ "cargo" ["pgo", "build"]).trans (by decide)
  have hbinary : Config.default.commandFor w .profilingRun =
      ⟨.profilingRun, Path.ofString "target/x86_64-unknown-linux-gnu/release/aprs",
        ["--only-load", "w"].map Utf8.encode⟩ := by decide
  have hsecond : Config.default.lineOf w .profilingRun =
      "target/x86_64-unknown-linux-gnu/release/aprs --only-load w" := by
    rw [lineOf, hbinary]
    exact (StageCommand.display_texts _ _ _).trans (by decide)
  obtain ⟨hbroken, hout⟩ := (planned_lines .default w).unwritten .discarding
    (fun _ => Inhabited.default) (.ofRandom 0 0) fullDisk 0 1 _ _ rfl hfails
  have htake : (Config.default.lines w).take 1 = ["cargo pgo build"] :=
    congrArg (fun line => [line]) hfirst
  rw [htake, hsecond] at hout
  exact ⟨hfails, hbroken.exitCode, hout.trans (by decide)⟩

end Config

end ProfiledBuild
