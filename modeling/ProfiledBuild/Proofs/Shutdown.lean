import ProfiledBuild.Proofs.Replay

/-! What becomes of a signal that arrives while a process runs. The driver may turn to the end of
the process first, and then the signal is lost; if it never does so, the run is interrupted. -/

namespace ProfiledBuild.Supervision

/-- The driver settles a stage that it watches although a signal waits for it. -/
def Overlooks (s t : State) : Prop :=
  ∃ stage signals, s.driver = .watching stage signals ∧ signals ≠ [] ∧ t.record ≠ s.record

inductive Heeding (command : Stage → StageCommand) (s : State) : State → Prop where
  | refl : Heeding command s s
  | tail {t u : State} : Heeding command s t → Step command t u → ¬Overlooks t u →
      Heeding command s u

/-- On some way from a state the signal has waited for the driver in the stage. -/
def Came (command : Stage → StageCommand) (s : State) (stage : Stage) (signal : ShutdownSignal) :
    Prop :=
  ∃ t signals, Reachable command s t ∧ t.driver = .watching stage signals ∧ signal ∈ signals

theorem Heeding.reachable {command : Stage → StageCommand} {s t : State}
    (h : Heeding command s t) : Reachable command s t := by
  induction h with
  | refl => exact .refl
  | tail _ step _ ih => exact ih.tail step

theorem Reachable.trans {command : Stage → StageCommand} {s t u : State}
    (h : Reachable command s t) (h' : Reachable command t u) : Reachable command s u := by
  induction h' with
  | refl => exact h
  | tail _ step ih => exact ih.tail step

theorem Step.record_suffix {command : Stage → StageCommand} {s t : State}
    (step : Step command s t) : s.record <:+ t.record := by
  cases step <;> simp [State.settle]

theorem not_overlooks {s t : State} (h : t.record = s.record) : ¬Overlooks s t := by
  rintro ⟨_, _, -, -, hne⟩
  exact hne h

/-- Where the driver stands while it heeds a signal that has arrived in a stage, and what is recorded
then. Before the stage so many processes were started. -/
inductive Stands (came : ShutdownSignal → Prop) (stage : Stage) (size : Nat)
    (record : List (Stage × Happening)) : Driver → List (Stage × Happening) → Prop where
  | waits {signals : List ShutdownSignal} (h : signals ≠ []) :
      Stands came stage size record (.watching stage signals) record
  | stops {signal : ShutdownSignal} (h : came signal) :
      Stands came stage size record (.stopping stage signal) record
  | returns {signal : ShutdownSignal} (h : came signal) :
      Stands came stage size record (.returned (some (.interrupted stage signal)))
        ((stage, .signalled (size + 1) signal) :: record)

structure Heeded (came : ShutdownSignal → Prop) (stage : Stage) (size : Nat)
    (record : List (Stage × Happening)) (s : State) : Prop where
  stands : Stands came stage size record s.driver s.record
  size : s.children.length = size + 1

section

variable {c : Config} {w : Workload} {came : ShutdownSignal → Prop} {stage : Stage} {size : Nat}
  {record : List (Stage × Happening)}

theorem settle_signalled (signal : ShutdownSignal) (waiting : List Stage) (children : List Child) :
    State.settle (c.commandFor w) stage (.signalled (size + 1) signal) waiting children record =
      ⟨.returned (some (.interrupted stage signal)), waiting, children,
        (stage, .signalled (size + 1) signal) :: record⟩ := by
  simp [State.settle, Happening.outcome, Pipeline.failureOf]

/-- A step leaves the signal heeded, or it overlooks the signal for the end of the process. -/
theorem Heeded.step {s t : State} (h : Heeded came stage size record s)
    (hcame : ∀ signals, s.driver = .watching stage signals → ∀ signal ∈ signals, came signal)
    (step : Step (c.commandFor w) s t) :
    Heeded came stage size record t ∧ ¬Overlooks s t ∨
      ∃ status, t.record = (stage, .ended (size + 1) status) :: record ∧ Overlooks s t := by
  obtain ⟨hstands, hsize⟩ := h
  cases step with
  | startFails => cases hstands
  | start => cases hstands
  | finish => cases hstands
  | childEnds driver waiting newer older record' status =>
    exact Or.inl ⟨⟨hstands, by simpa using hsize⟩, not_overlooks rfl⟩
  | signalArrives stage' signals waiting children record' signal =>
    cases hstands
    exact Or.inl ⟨⟨.waits (by simp), hsize⟩, not_overlooks rfl⟩
  | signalUnheard => exact Or.inl ⟨⟨hstands, hsize⟩, not_overlooks rfl⟩
  | noticeEnd stage' signals waiting older record' status =>
    cases hstands with
    | waits hsignals =>
      obtain rfl : older.length = size := by simpa using hsize
      exact Or.inr ⟨status, rfl, stage, signals, rfl, hsignals, by simp [State.settle]⟩
  | noticeSignal stage' signals waiting child older record' signal hsignal =>
    cases hstands
    exact Or.inl ⟨⟨.stops (hcame signals rfl signal hsignal), hsize⟩, not_overlooks rfl⟩
  | reap stage' signal waiting older record' status =>
    cases hstands with
    | stops hsignal =>
      obtain rfl : older.length = size := by simpa using hsize
      rw [settle_signalled]
      refine Or.inl ⟨⟨.returns hsignal, hsize⟩, ?_⟩
      rintro ⟨_, _, hdriver, -⟩
      simp at hdriver

theorem came_of_reachable {command : Stage → StageCommand} {s t : State}
    (h : Reachable command s t) :
    ∀ signals, t.driver = .watching stage signals → ∀ signal ∈ signals, Came command s stage signal :=
  fun signals hdriver _ hsignal => ⟨t, signals, h, hdriver, hsignal⟩

theorem Heeding.heeded {s t : State} (h : Heeding (c.commandFor w) s t)
    (hs : Heeded (Came (c.commandFor w) s stage) stage size record s) :
    Heeded (Came (c.commandFor w) s stage) stage size record t := by
  induction h with
  | refl => exact hs
  | tail hheeding step hstep ih =>
    rcases ih.step (came_of_reachable hheeding.reachable) step with ⟨hu, -⟩ | ⟨_, -, hoverlooks⟩
    · exact hu
    · exact absurd hoverlooks hstep

/-- Wherever the steps lead, the signal has been heeded all the way, or the process counts as ended
in the record. -/
theorem Reachable.heeding_or_lost {s t : State} (h : Reachable (c.commandFor w) s t)
    (hs : Heeded (Came (c.commandFor w) s stage) stage size record s) :
    Heeding (c.commandFor w) s t ∨
      ∃ status, (stage, .ended (size + 1) status) :: record <:+ t.record := by
  induction h with
  | refl => exact Or.inl .refl
  | tail h step ih =>
    rcases ih with hheeding | ⟨status, hlost⟩
    · rcases (hheeding.heeded hs).step (came_of_reachable h) step with
        ⟨-, hstep⟩ | ⟨status, hrecord, -⟩
      · exact Or.inl (hheeding.tail step hstep)
      · exact Or.inr ⟨status, by simp [hrecord]⟩
    · exact Or.inr ⟨status, hlost.trans step.record_suffix⟩

theorem Heeded.not_lost {s : State} (h : Heeded came stage size record s) (status : Int32) :
    ¬(stage, .ended (size + 1) status) :: record <:+ s.record := by
  intro hsuffix
  have hlength := hsuffix.length_le
  cases s with
  | mk driver waiting children record' =>
    cases h.stands with
    | waits | stops => exact Nat.not_succ_le_self _ hlength
    | returns =>
      have heq := hsuffix.eq_of_length (by simp)
      simp at heq

end

def State.watched (stage : Stage) (signals : List ShutdownSignal) (waiting : List Stage)
    (older : List Child) (record : List (Stage × Happening)) : State :=
  ⟨.watching stage signals, waiting, .running :: older, record⟩

/-- The call for a stage has returned with an interruption by a signal that has come since a state.
No further process has been started, and the exit code of the run is that of the signal. -/
structure Interrupted (c : Config) (w : Workload) (stage : Stage) (size : Nat)
    (record : List (Stage × Happening)) (s : State) (signal : ShutdownSignal) (t : State) :
    Prop where
  came : Came (c.commandFor w) s stage signal
  driver : t.driver = .returned (some (.interrupted stage signal))
  record : t.record = (stage, .signalled (size + 1) signal) :: record
  size : t.children.length = size + 1
  exitCode : ∀ sink clock id ticks,
    ((replaying c sink clock).run w id t.happenings ticks).run.exitCode = signal.exitCode

/-- How a call can return for whose stage a signal waits. It is interrupted exactly if the driver
does not turn to the end of the process while the signal waits; else the process counts as ended.
The driver may always go either way. -/
structure Contended (c : Config) (w : Workload) (stage : Stage) (signal : ShutdownSignal)
    (size : Nat) (record : List (Stage × Happening)) (s : State) : Prop where
  heeding : ∀ t, Reachable (c.commandFor w) s t → record.length < t.record.length →
    ((∃ cause, Interrupted c w stage size record s cause t) ↔ Heeding (c.commandFor w) s t)
  kept : ∀ t, Reachable (c.commandFor w) s t → record.length < t.record.length →
    ((∃ cause, Interrupted c w stage size record s cause t) ↔
      ∀ status, ¬(stage, .ended (size + 1) status) :: record <:+ t.record)
  mayInterrupt : ∃ t, Reachable (c.commandFor w) s t ∧
    Interrupted c w stage size record s signal t
  mayLose : ∀ status, ∃ t, Reachable (c.commandFor w) s t ∧
    t.record = (stage, .ended (size + 1) status) :: record

section

variable {c : Config} {w : Workload} {stage : Stage} {signals : List ShutdownSignal}
  {waiting : List Stage} {older : List Child} {record : List (Stage × Happening)}

theorem heeded_watched {came : ShutdownSignal → Prop} (signal : ShutdownSignal) :
    Heeded came stage older.length record
      (State.watched stage (signals ++ [signal]) waiting older record) :=
  ⟨.waits (by simp), rfl⟩

/-- A call that has returned and heeded the signal has been interrupted. -/
theorem Heeded.interrupted {size : Nat} {s t : State}
    (h : Heeded (Came (c.commandFor w) s stage) stage size record t)
    (ht : Reachable (c.commandFor w) .initial t) (hreturned : record.length < t.record.length) :
    ∃ signal, Interrupted c w stage size record s signal t := by
  obtain ⟨hstands, hsize⟩ := h
  cases t with
  | mk driver waiting children record' =>
    cases hstands with
    | waits | stops => exact absurd hreturned (Nat.lt_irrefl _)
    | @returns signal hcame =>
      refine ⟨signal, hcame, rfl, rfl, hsize, ?_⟩
      intro sink clock id ticks
      exact exitCode_replay c sink clock w ht rfl id ticks

theorem Interrupted.heeded {size : Nat} {signal : ShutdownSignal} {s t : State}
    (h : Interrupted c w stage size record s signal t) :
    Heeded (Came (c.commandFor w) s stage) stage size record t := by
  constructor
  · rw [h.driver, h.record]
    exact .returns h.came
  · exact h.size

theorem interrupted_iff_of_heeded {size : Nat} {s t : State}
    (hs : Heeded (Came (c.commandFor w) s stage) stage size record s)
    (hreachable : Reachable (c.commandFor w) .initial s) (h : Reachable (c.commandFor w) s t)
    (hreturned : record.length < t.record.length) :
    ((∃ cause, Interrupted c w stage size record s cause t) ↔ Heeding (c.commandFor w) s t) ∧
      ((∃ cause, Interrupted c w stage size record s cause t) ↔
        ∀ status, ¬(stage, .ended (size + 1) status) :: record <:+ t.record) := by
  rcases h.heeding_or_lost hs with hheeding | ⟨status, hlost⟩
  · have hheeded := hheeding.heeded hs
    have hinterrupted := hheeded.interrupted (hreachable.trans h) hreturned
    exact ⟨iff_of_true hinterrupted hheeding, iff_of_true hinterrupted hheeded.not_lost⟩
  · have hnot : ¬∃ cause, Interrupted c w stage size record s cause t :=
      fun ⟨_, hinterrupted⟩ => hinterrupted.heeded.not_lost status hlost
    refine ⟨iff_of_false hnot ?_, iff_of_false hnot fun hkept => hkept status hlost⟩
    exact fun hheeding => (hheeding.heeded hs).not_lost status hlost

/-- What can become of a signal that arrives while a stage's process runs. -/
theorem interrupted_iff_heeding (signal : ShutdownSignal)
    (h : Reachable (c.commandFor w) .initial
      (State.watched stage signals waiting older record)) :
    Contended c w stage signal older.length record
      (State.watched stage (signals ++ [signal]) waiting older record) := by
  have harrived := h.tail
    (.signalArrives stage signals waiting (.running :: older) record signal)
  have hwatched : Heeded (Came (c.commandFor w)
        (State.watched stage (signals ++ [signal]) waiting older record) stage)
      stage older.length record
      (State.watched stage (signals ++ [signal]) waiting older record) := heeded_watched signal
  constructor
  case heeding =>
    intro t ht hreturned
    exact (interrupted_iff_of_heeded hwatched harrived ht hreturned).1
  case kept =>
    intro t ht hreturned
    exact (interrupted_iff_of_heeded hwatched harrived ht hreturned).2
  case mayInterrupt =>
    have hnotice : Reachable (c.commandFor w)
        (State.watched stage (signals ++ [signal]) waiting older record)
        ⟨.stopping stage signal, waiting, .ended 9 :: older, record⟩ :=
      .tail .refl (.noticeSignal stage _ waiting .running older record signal (by simp))
    have hreap := hnotice.tail (.reap stage signal waiting older record 9)
    rw [settle_signalled] at hreap
    refine ⟨_, hreap, ⟨_, _, .refl, rfl, by simp⟩, rfl, rfl, rfl, ?_⟩
    intro sink clock id ticks
    exact exitCode_replay c sink clock w (harrived.trans hreap) rfl id ticks
  case mayLose =>
    intro status
    have hends : Reachable (c.commandFor w)
        (State.watched stage (signals ++ [signal]) waiting older record)
        ⟨.watching stage (signals ++ [signal]), waiting, .ended status :: older, record⟩ :=
      .tail .refl (.childEnds _ waiting [] older record status)
    exact ⟨_, hends.tail (.noticeEnd stage _ waiting older record status), rfl⟩

theorem Reachable.begin {s : State} {stages : List Stage}
    (h : Reachable (c.commandFor w) s ⟨.ready, stage :: stages, older, record⟩) :
    Reachable (c.commandFor w) s (State.watched stage [] stages older record) :=
  h.tail (.start stage stages older record)

theorem Reachable.pass {s : State} {stages : List Stage}
    (h : Reachable (c.commandFor w) s (State.watched stage signals stages older record)) :
    Reachable (c.commandFor w) s
      ⟨.ready, stages, .reaped 0 :: older, (stage, .ended (older.length + 1) 0) :: record⟩ := by
  have hends := h.tail (.childEnds (.watching stage signals) stages [] older record 0)
  exact hends.tail (.noticeEnd stage signals stages older record 0)

end

theorem first_stage_interrupted :
    ∃ t, Interrupted Config.default ⟨⟨[0x77]⟩, by decide⟩ .instrumentedBuild 0 []
      (State.watched .instrumentedBuild [.interrupt] [.profilingRun, .optimizedBuild] [] [])
      .interrupt t := by
  obtain ⟨t, -, ht⟩ := (interrupted_iff_heeding (c := .default) (w := ⟨⟨[0x77]⟩, by decide⟩)
    .interrupt (Reachable.begin .refl)).mayInterrupt
  exact ⟨t, ht⟩

/-- An interrupt that arrives while the first process runs is lost, and all stages are run. -/
theorem interrupt_is_lost :
    ∃ s t, Reachable (Config.default.commandFor ⟨⟨[0x77]⟩, by decide⟩) .initial s ∧
      s = State.watched .instrumentedBuild [.interrupt] [.profilingRun, .optimizedBuild] [] [] ∧
      Reachable (Config.default.commandFor ⟨⟨[0x77]⟩, by decide⟩) s t ∧
      t.driver = .returned none ∧ t.children = [.reaped 0, .reaped 0, .reaped 0] ∧
      ((replaying Config.default .discarding fun _ => default).run ⟨⟨[0x77]⟩, by decide⟩
        (.ofRandom 0 0) t.happenings 0).run.exitCode = 0 := by
  let w : Workload := ⟨⟨[0x77]⟩, by decide⟩
  have hfirst : Reachable (Config.default.commandFor w) .initial
      (State.watched .instrumentedBuild [] [.profilingRun, .optimizedBuild] [] []) :=
    Reachable.begin .refl
  have harrives := hfirst.tail (.signalArrives .instrumentedBuild [] _ _ [] .interrupt)
  have hrest : Reachable (Config.default.commandFor w)
      (State.watched .instrumentedBuild [.interrupt] [.profilingRun, .optimizedBuild] [] []) _ :=
    (Reachable.refl.pass.begin.pass.begin.pass).tail (.finish _ _)
  refine ⟨_, _, harrives, rfl, hrest, rfl, rfl, ?_⟩
  exact exitCode_replay _ _ _ w (harrives.trans hrest) rfl _ 0

end ProfiledBuild.Supervision
