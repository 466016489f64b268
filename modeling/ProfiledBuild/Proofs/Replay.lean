import ProfiledBuild.Proofs.Ending
import ProfiledBuild.Supervision

/-! What the driver has recorded is a run of the pipeline: given the same happenings again, a run
ends as the driver has ended. -/

namespace ProfiledBuild.Supervision

/-- Lets happenings happen one after another, and nothing else. -/
def replay : List Happening → StageCommand → Attempt (List Happening)
  | [], _ => ⟨.notStarted (.ofKind .interrupted none), [], []⟩
  | happening :: rest, _ => ⟨happening, [], rest⟩

def replaying (c : Config) (sink : Sink) (clock : Clock) : Pipeline (List Happening) :=
  ⟨c, sink, processRunner replay, clock⟩

namespace State

def happenings (s : State) : List Happening := s.record.reverse.map Prod.snd

def current (s : State) : List Stage :=
  match s.driver with
  | .watching stage _ => [stage]
  | .stopping stage _ => [stage]
  | _ => []

end State

def Succeeds (command : Stage → StageCommand) (entry : Stage × Happening) : Prop :=
  Pipeline.failureOf entry.1 (entry.2.outcome (command entry.1)) = none

/-- The record, the stage at hand and the stages to come are all stages in order. All that is
recorded has succeeded, but for the failure that the driver has returned with. -/
structure Coherent (command : Stage → StageCommand) (s : State) : Prop where
  stages : s.record.reverse.map Prod.fst ++ (s.current ++ s.waiting) = Stage.all
  goesOn : (∀ failure, s.driver ≠ .returned (some failure)) →
    ∀ entry ∈ s.record, Succeeds command entry
  fails : ∀ failure, s.driver = .returned (some failure) →
    ∃ stage happening older, s.record = (stage, happening) :: older ∧
      (∀ entry ∈ older, Succeeds command entry) ∧
      Pipeline.failureOf stage (happening.outcome (command stage)) = some failure
  finishes : s.driver = .returned none → s.waiting = []

theorem Coherent.initial (command : Stage → StageCommand) : Coherent command .initial := by
  constructor <;> simp [State.initial, State.current]

theorem Coherent.settle {command : Stage → StageCommand} {stage : Stage} {waiting : List Stage}
    {record : List (Stage × Happening)} (happening : Happening) (children : List Child)
    (hstages : record.reverse.map Prod.fst ++ stage :: waiting = Stage.all)
    (hrecord : ∀ entry ∈ record, Succeeds command entry) :
    Coherent command (.settle command stage happening waiting children record) := by
  cases hf : Pipeline.failureOf stage (happening.outcome (command stage)) with
  | none =>
    have hall : ∀ entry ∈ (stage, happening) :: record, Succeeds command entry :=
      List.forall_mem_cons.mpr ⟨hf, hrecord⟩
    constructor
    case stages => simpa [State.settle, State.current, hf] using hstages
    case goesOn => exact fun _ => hall
    case fails => simp [State.settle, hf]
    case finishes => simp [State.settle, hf]
  | some failure =>
    constructor
    case stages => simpa [State.settle, State.current, hf] using hstages
    case goesOn =>
      intro h
      simp [State.settle, hf] at h
    case fails =>
      intro failure' h
      obtain rfl : failure = failure' := by simpa [State.settle, hf] using h
      exact ⟨stage, happening, record, rfl, hrecord, hf⟩
    case finishes => simp [State.settle, hf]

/-- A step that leaves the record, the stage at hand and the stages to come as they are. -/
theorem Coherent.of_eq {command : Stage → StageCommand} {s t : State} (h : Coherent command s)
    (hrecord : t.record = s.record) (hstages : t.current ++ t.waiting = s.current ++ s.waiting)
    (hs : ∀ failure, s.driver ≠ .returned (some failure))
    (ht : ∀ failure, t.driver ≠ .returned (some failure))
    (hfinishes : t.driver = .returned none → t.waiting = []) : Coherent command t := by
  constructor
  case stages => rw [hrecord, hstages, h.stages]
  case goesOn =>
    intro _
    rw [hrecord]
    exact h.goesOn hs
  case fails => exact fun failure hfailure => absurd hfailure (ht failure)
  case finishes => exact hfinishes

theorem Coherent.step {command : Stage → StageCommand} {s t : State} (h : Coherent command s)
    (step : Step command s t) : Coherent command t := by
  cases step with
  | startFails stage waiting children record error =>
    exact .settle _ _ h.stages (h.goesOn (by simp))
  | start stage waiting children record => exact h.of_eq rfl rfl (by simp) (by simp) (by simp)
  | childEnds driver waiting newer older record status =>
    exact ⟨h.stages, h.goesOn, h.fails, h.finishes⟩
  | signalArrives => exact h.of_eq rfl rfl (by simp) (by simp) (by simp)
  | signalUnheard => exact h
  | noticeEnd stage signals waiting older record status =>
    exact .settle _ _ h.stages (h.goesOn (by simp))
  | noticeSignal => exact h.of_eq rfl rfl (by simp) (by simp) (by simp)
  | reap stage signal waiting older record status =>
    exact .settle _ _ h.stages (h.goesOn (by simp))
  | finish => exact h.of_eq rfl rfl (by simp) (by simp) (by simp)

theorem Reachable.coherent {command : Stage → StageCommand} {s : State}
    (h : Reachable command .initial s) : Coherent command s :=
  h.invariant (.initial command) fun _ _ hu step => hu.step step

section

variable (c : Config) (sink : Sink) (clock : Clock) (w : Workload)

/-- Happenings that succeed are visited one after another, and then the run goes on. -/
theorem exists_visits_replay {entries : List (Stage × Happening)} (rest : List Stage)
    (more : List Happening) (ticks : Nat)
    (h : ∀ entry ∈ entries, Succeeds (c.commandFor w) entry) :
    ∃ before, before.length = entries.length ∧ (∀ v ∈ before, v.failure = none) ∧
      (replaying c sink clock).visits w (entries.map Prod.fst ++ rest)
          (entries.map Prod.snd ++ more) ticks =
        before ++ (replaying c sink clock).visits w rest more
          (ticks + Visit.readings * entries.length) := by
  induction entries generalizing ticks with
  | nil => exact ⟨[], rfl, by simp, rfl⟩
  | cons entry entries ih =>
    obtain ⟨stage, happening⟩ := entry
    obtain ⟨hentry, hentries⟩ := List.forall_mem_cons.mp h
    have hf : ((replaying c sink clock).visit w stage
        (happening :: (entries.map Prod.snd ++ more)) ticks).failure = none := by
      rw [Pipeline.failure_visit]
      exact hentry
    obtain ⟨before, hlength, hbefore, hvisits⟩ := ih (ticks + Visit.readings) hentries
    refine ⟨_ :: before, congrArg Nat.succ hlength, List.forall_mem_cons.mpr ⟨hf, hbefore⟩, ?_⟩
    rw [List.map_cons, List.map_cons, List.cons_append, List.cons_append,
      Pipeline.visits_of_success _ _ hf, List.cons_append, List.length_cons, Nat.mul_succ,
      Nat.add_comm (Visit.readings * _), ← Nat.add_assoc, ← hvisits]
    rfl

/-- A run on the happenings that the driver has recorded visits the stages that are recorded, and it
stops where the driver has returned. -/
theorem visits_replay {s : State} (h : Reachable (c.commandFor w) .initial s)
    {failure : Option Failure} (hs : s.driver = .returned failure) (ticks : Nat) :
    Pipeline.stop ((replaying c sink clock).allVisits w s.happenings ticks) = failure ∧
      ((replaying c sink clock).allVisits w s.happenings ticks).length = s.record.length := by
  have hcoherent := h.coherent
  have hstages := hcoherent.stages
  have hcurrent : s.current = [] := by rw [State.current, hs]
  rw [hcurrent, List.nil_append] at hstages
  rw [Pipeline.allVisits, ← hstages, State.happenings]
  cases failure with
  | none =>
    have hall : ∀ entry ∈ s.record.reverse, Succeeds (c.commandFor w) entry := by
      simpa using hcoherent.goesOn (by simp [hs])
    obtain ⟨before, hlength, hbefore, hvisits⟩ :=
      exists_visits_replay c sink clock w [] [] (ticks + 2) hall
    rw [List.append_nil (s.record.reverse.map Prod.snd), Pipeline.visits, List.append_nil before]
      at hvisits
    rw [hcoherent.finishes hs, hvisits, hlength, List.length_reverse]
    exact ⟨List.findSome?_eq_none_iff.mpr hbefore, rfl⟩
  | some failure =>
    obtain ⟨stage, happening, older, hrecord, holder, hfailure⟩ := hcoherent.fails failure hs
    have hf : ((replaying c sink clock).visit w stage [happening]
        (ticks + 2 + Visit.readings * older.reverse.length)).failure = some failure := by
      rw [Pipeline.failure_visit]
      exact hfailure
    have hreverse : ∀ entry ∈ older.reverse, Succeeds (c.commandFor w) entry := by
      simpa using holder
    obtain ⟨before, hlength, hbefore, hvisits⟩ :=
      exists_visits_replay c sink clock w (stage :: s.waiting) [happening] (ticks + 2) hreverse
    rw [Pipeline.visits_of_failure _ _ hf] at hvisits
    rw [hrecord, List.reverse_cons, List.map_append, List.map_append, List.append_assoc]
    refine ⟨(congrArg Pipeline.stop hvisits).trans ?_, (congrArg List.length hvisits).trans ?_⟩
    · rw [Pipeline.stop, List.findSome?_append, List.findSome?_eq_none_iff.mpr hbefore,
        List.findSome?_singleton, hf, Option.none_or]
    · rw [List.length_append, hlength, List.length_reverse]
      rfl

theorem failure_replay {s : State} (h : Reachable (c.commandFor w) .initial s)
    {failure : Option Failure} (hs : s.driver = .returned failure) (id : RunId) (ticks : Nat) :
    ((replaying c sink clock).run w id s.happenings ticks).run.failure = failure := by
  rw [(Pipeline.run_spec _ w id _ ticks).1, Pipeline.failure_closed,
    (visits_replay c sink clock w h hs ticks).1]

theorem invokedStages_replay {s : State} (h : Reachable (c.commandFor w) .initial s)
    {failure : Option Failure} (hs : s.driver = .returned failure) (id : RunId) (ticks : Nat) :
    ((replaying c sink clock).run w id s.happenings ticks).run.invokedStages =
      s.record.reverse.map Prod.fst := by
  have hstages := h.coherent.stages
  rw [State.current, hs, List.nil_append] at hstages
  rw [(Pipeline.run_spec _ w id _ ticks).1, Pipeline.invokedStages_closed,
    (visits_replay c sink clock w h hs ticks).2, ← hstages]
  exact List.take_left' (by simp)

theorem exitCode_replay {s : State} (h : Reachable (c.commandFor w) .initial s)
    {failure : Option Failure} (hs : s.driver = .returned failure) (id : RunId) (ticks : Nat) :
    ((replaying c sink clock).run w id s.happenings ticks).run.exitCode =
      (failure.map Failure.exitCode).getD 0 := by
  rw [(Pipeline.run_spec _ w id _ ticks).1, Pipeline.exitCode_closed,
    (visits_replay c sink clock w h hs ticks).1]
  cases failure <;> rfl

end

end ProfiledBuild.Supervision
