import ProfiledBuild.Proofs.RunRecord
import ProfiledBuild.Proofs.Shutdown

/-! The processes that the driver starts. There is never more than one at a time, each is reaped
before the driver goes on, and none is left when it returns. -/

namespace ProfiledBuild

def Happening.pid? : Happening → Option Nat
  | .notStarted _ => none
  | .ended pid _ => some pid
  | .waitFailed pid _ => some pid
  | .signalled pid _ => some pid

namespace Supervision

namespace State

/-- All processes but the one that the driver has at hand. -/
def past (s : State) : List Child := s.children.drop s.current.length

def pids (s : State) : List Nat := s.record.reverse.filterMap fun entry => entry.2.pid?

end State

/-- What the driver has left behind: processes that are reaped, each of them in the record of one
stage under its number. -/
structure Orderly (s : State) : Prop where
  atHand : s.current.length ≤ s.children.length
  past : ∀ child ∈ s.past, child.isUnreaped = false
  pids : s.pids = List.range' 1 s.past.length

theorem Orderly.initial : Orderly .initial := by
  constructor <;> simp [State.initial, State.past, State.current, State.pids]

theorem current_settle (command : Stage → StageCommand) (stage : Stage) (happening : Happening)
    (waiting : List Stage) (children : List Child) (record : List (Stage × Happening)) :
    (State.settle command stage happening waiting children record).current = [] := by
  rw [State.settle, State.current]
  cases Pipeline.failureOf stage (happening.outcome (command stage)) <;> rfl

theorem past_settle (command : Stage → StageCommand) (stage : Stage) (happening : Happening)
    (waiting : List Stage) (children : List Child) (record : List (Stage × Happening)) :
    (State.settle command stage happening waiting children record).past = children := by
  rw [State.past, current_settle]
  rfl

theorem pids_settle (command : Stage → StageCommand) (stage : Stage) (happening : Happening)
    (waiting : List Stage) (children : List Child) (record : List (Stage × Happening)) :
    (State.settle command stage happening waiting children record).pids =
      record.reverse.filterMap (fun entry => entry.2.pid?) ++ happening.pid?.toList := by
  rw [State.pids, State.settle, List.reverse_cons, List.filterMap_append]
  cases happening <;> rfl

theorem Orderly.settle {command : Stage → StageCommand} {stage : Stage} {happening : Happening}
    {waiting : List Stage} {children : List Child} {record : List (Stage × Happening)}
    (hchildren : ∀ child ∈ children, child.isUnreaped = false)
    (hpids : record.reverse.filterMap (fun entry => entry.2.pid?) ++ happening.pid?.toList =
      List.range' 1 children.length) :
    Orderly (.settle command stage happening waiting children record) := by
  constructor
  case atHand => rw [current_settle]; exact Nat.zero_le _
  case past => rwa [past_settle]
  case pids => rwa [pids_settle, past_settle]

/-- The process at hand ends well or badly and is reaped. -/
theorem Orderly.settle_reaped {command : Stage → StageCommand} {stage : Stage}
    {happening : Happening} {waiting : List Stage} {older : List Child}
    {record : List (Stage × Happening)} (status : Int32)
    (holder : ∀ child ∈ older, child.isUnreaped = false)
    (hrecord : record.reverse.filterMap (fun entry => entry.2.pid?) =
      List.range' 1 older.length) (hpid : happening.pid? = some (older.length + 1)) :
    Orderly (.settle command stage happening waiting (.reaped status :: older) record) := by
  refine .settle (List.forall_mem_cons.mpr ⟨rfl, holder⟩) ?_
  rw [hrecord, hpid, List.length_cons, List.range'_1_concat, Nat.add_comm 1]
  rfl

/-- A step that leaves the record and the processes of the past as they are. -/
theorem Orderly.of_eq {s t : State} (h : Orderly s) (hrecord : t.record = s.record)
    (hpast : t.past = s.past) (hatHand : t.current.length ≤ t.children.length) : Orderly t := by
  constructor
  case atHand => exact hatHand
  case past => rw [hpast]; exact h.past
  case pids => rw [State.pids, hrecord, hpast]; exact h.pids

/-- A process that is not among those of the past may end without changing them. -/
theorem drop_ended {n : Nat} {newer older : List Child} (status : Int32)
    (h : .running ∉ (newer ++ .running :: older).drop n) :
    (newer ++ .ended status :: older).drop n = (newer ++ .running :: older).drop n := by
  have hlt : newer.length < n := by
    refine Nat.lt_of_not_le fun hle => h ?_
    rw [List.drop_append_of_le_length hle]
    simp
  obtain ⟨m, hm⟩ : ∃ m, n - newer.length = m + 1 := ⟨n - newer.length - 1, by omega⟩
  rw [List.drop_append, List.drop_append, hm, List.drop_succ_cons, List.drop_succ_cons]

theorem Orderly.step {command : Stage → StageCommand} {s t : State} (h : Orderly s)
    (step : Step command s t) : Orderly t := by
  cases step with
  | startFails stage waiting children record error =>
    refine .settle h.past ?_
    rw [Happening.pid?, Option.toList_none, List.append_nil]
    exact h.pids
  | start stage waiting children record => exact h.of_eq rfl rfl (by simp [State.current])
  | childEnds driver waiting newer older record status =>
    have hlength : (newer ++ Child.ended status :: older).length =
        (newer ++ Child.running :: older).length := by simp
    refine h.of_eq rfl (drop_ended status ?_) (hlength ▸ h.atHand)
    exact fun hmem => absurd (h.past .running hmem) (by decide)
  | signalArrives => exact h.of_eq rfl rfl h.atHand
  | signalUnheard => exact h
  | noticeEnd stage signals waiting older record status =>
    exact .settle_reaped status h.past h.pids rfl
  | noticeSignal stage signals waiting child older record signal hsignal =>
    exact h.of_eq rfl rfl (by simp [State.current])
  | reap stage signal waiting older record status =>
    exact .settle_reaped status h.past h.pids rfl
  | finish => exact h.of_eq rfl rfl (Nat.zero_le _)

theorem Reachable.orderly {command : Stage → StageCommand} {s : State}
    (h : Reachable command .initial s) : Orderly s :=
  h.invariant .initial fun _ _ hu step => hu.step step

theorem length_current_le (s : State) : s.current.length ≤ 1 := by
  rw [State.current]
  cases s.driver <;> simp

theorem Orderly.length_unreaped_le {s : State} (h : Orderly s) :
    s.unreaped.length ≤ s.current.length := by
  have hpast : s.past.filter (·.isUnreaped) = [] := by
    simpa using h.past
  rw [State.unreaped, ← List.take_append_drop s.current.length s.children, List.filter_append]
  change (_ ++ s.past.filter (·.isUnreaped)).length ≤ _
  rw [hpast, List.append_nil]
  exact Nat.le_trans (List.length_filter_le _ _) (List.length_take_le _ _)

theorem Orderly.unreaped_eq_nil {s : State} (h : Orderly s) (hcurrent : s.current = []) :
    s.unreaped = [] := by
  have hle := h.length_unreaped_le
  rw [hcurrent] at hle
  exact List.length_eq_zero_iff.mp (Nat.le_zero.mp hle)

theorem Orderly.length_past {s : State} (h : Orderly s) :
    s.past.length + s.current.length = s.children.length := by
  have hle := h.atHand
  rw [State.past, List.length_drop]
  omega

/-- The process with a number in the record is the one that was started so manieth. -/
theorem Orderly.reaped {s : State} (h : Orderly s) {entry : Stage × Happening}
    (hentry : entry ∈ s.record) {pid : Nat} (hpid : entry.2.pid? = some pid) :
    ∃ status, s.children.reverse[pid - 1]? = some (.reaped status) := by
  have hmem : pid ∈ s.pids :=
    List.mem_filterMap.mpr ⟨entry, List.mem_reverse.mpr hentry, hpid⟩
  rw [h.pids, List.mem_range'_1] at hmem
  have hlt : pid - 1 < s.past.reverse.length := by
    rw [List.length_reverse]
    omega
  have hchild : s.children.reverse[pid - 1]? = some s.past.reverse[pid - 1] := by
    rw [← List.take_append_drop s.current.length s.children, List.reverse_append]
    change (s.past.reverse ++ _)[pid - 1]? = _
    rw [List.getElem?_append_left hlt, List.getElem?_eq_getElem hlt]
  rw [hchild]
  have hreaped := h.past _ (List.mem_reverse.mp (List.getElem_mem hlt))
  cases hc : s.past.reverse[pid - 1] with
  | reaped status => exact ⟨status, rfl⟩
  | running => simp [hc, Child.isUnreaped] at hreaped
  | ended status => simp [hc, Child.isUnreaped] at hreaped

def Starts (stage : Stage) (s t : State) : Prop :=
  s.children.length < t.children.length ∧ t.current = [stage]

theorem Step.eq_start {command : Stage → StageCommand} {s t : State} (step : Step command s t)
    (h : s.children.length < t.children.length) :
    s.driver = .ready ∧ ∃ stage, s.waiting = stage :: t.waiting ∧ t.current = [stage] := by
  cases step with
  | start stage waiting children record => exact ⟨rfl, stage, rfl, rfl⟩
  | _ => simp [State.settle] at h

theorem Step.current_of_record {command : Stage → StageCommand} {s t : State}
    (step : Step command s t) (h : s.record.length < t.record.length) : t.current = [] := by
  cases step with
  | startFails | noticeEnd | reap => exact current_settle ..
  | _ => simp at h

theorem Step.waiting_suffix {command : Stage → StageCommand} {s t : State}
    (step : Step command s t) : t.waiting <:+ s.waiting := by
  cases step <;> simp [State.settle]

theorem Reachable.waiting_suffix {command : Stage → StageCommand} {s t : State}
    (h : Reachable command s t) : t.waiting <:+ s.waiting := by
  induction h with
  | refl => exact List.suffix_refl _
  | tail _ step ih => exact step.waiting_suffix.trans ih

/-- A stage that has been started is not waiting any more, and only a waiting one is started. -/
theorem Starts.once {command : Stage → StageCommand} {stage : Stage} {s t u v : State}
    (hs : Reachable command .initial s) (step : Step command s t) (h : Starts stage s t)
    (htu : Reachable command t u) (step' : Step command u v) : ¬Starts stage u v := by
  intro h'
  have hnodup : (t.record.reverse.map Prod.fst ++ (t.current ++ t.waiting)).Nodup := by
    rw [(hs.tail step).coherent.stages]
    decide
  obtain ⟨-, stage', hwaiting, hcurrent⟩ := step'.eq_start h'.1
  obtain rfl : stage' = stage := by simpa using hcurrent.symm.trans h'.2
  have hmem : stage' ∈ t.waiting := by
    refine htu.waiting_suffix.subset ?_
    rw [hwaiting]
    exact List.mem_cons_self
  rw [h.2, List.singleton_append] at hnodup
  exact (List.nodup_cons.mp (List.nodup_append.mp hnodup).2.1).1 hmem

theorem Step.eq_of_returned {command : Stage → StageCommand} {s t : State}
    {failure : Option Failure} (step : Step command s t) (hdriver : s.driver = .returned failure)
    (hunreaped : s.unreaped = []) : t = s := by
  cases step with
  | signalUnheard => rfl
  | childEnds driver waiting newer older record status =>
    rw [State.unreaped, List.filter_eq_nil_iff] at hunreaped
    exact absurd rfl (hunreaped .running (by simp))
  | _ => simp at hdriver

theorem Reachable.eq_of_returned {command : Stage → StageCommand} {s t : State}
    {failure : Option Failure} (h : Reachable command s t) (hdriver : s.driver = .returned failure)
    (hunreaped : s.unreaped = []) : t = s := by
  induction h with
  | refl => rfl
  | tail _ step ih =>
    rw [ih] at step
    exact step.eq_of_returned hdriver hunreaped

theorem current_of_returned {s : State} {failure : Option Failure}
    (h : s.driver = .returned failure) : s.current = [] := by
  rw [State.current, h]

/-- What is not a success is the last thing that the driver records. -/
theorem Coherent.returned_of_not_succeeds {command : Stage → StageCommand} {s : State}
    (h : Coherent command s) {entry : Stage × Happening} (hentry : entry ∈ s.record)
    (hfails : ¬Succeeds command entry) : ∃ failure, s.driver = .returned (some failure) := by
  by_cases hreturned : ∃ failure, s.driver = .returned (some failure)
  · exact hreturned
  · refine absurd (h.goesOn (fun failure hdriver => ?_) entry hentry) hfails
    exact hreturned ⟨failure, hdriver⟩

theorem Orderly.unreaped_of_returned {s : State} (h : Orderly s) {failure : Option Failure}
    (hdriver : s.driver = .returned failure) : s.unreaped = [] :=
  h.unreaped_eq_nil (current_of_returned hdriver)

/-- A command that was interrupted is the last one, and all stands still after it. -/
theorem eq_of_interrupted {command : Stage → StageCommand} {s t : State}
    (hs : Reachable command .initial s) {entry : Stage × Happening} (hentry : entry ∈ s.record)
    {stage : Stage} {signal : ShutdownSignal}
    (houtcome : entry.2.outcome (command entry.1) = .error (.interrupted stage signal))
    (ht : Reachable command s t) : t = s := by
  have hfails : ¬Succeeds command entry := by
    rw [Succeeds, houtcome, Pipeline.failureOf]
    exact Option.some_ne_none _
  obtain ⟨failure, hdriver⟩ := hs.coherent.returned_of_not_succeeds hentry hfails
  exact ht.eq_of_returned hdriver (hs.orderly.unreaped_of_returned hdriver)

/-- How the driver looks after the processes that it starts. When it has returned, the run that it
has recorded is a run of the pipeline. -/
structure Tended (c : Config) (w : Workload) (s : State) : Prop where
  oneAtATime : s.unreaped.length ≤ 1
  startsAlone : ∀ t, Step (c.commandFor w) s t → s.children.length < t.children.length →
    s.unreaped = []
  recordsReaped : ∀ t, Step (c.commandFor w) s t → s.record.length < t.record.length →
    t.unreaped = []
  numbered : s.pids = List.range' 1 (s.children.length - s.current.length)
  reaped : ∀ entry ∈ s.record, ∀ pid, entry.2.pid? = some pid →
    ∃ status, s.children.reverse[pid - 1]? = some (.reaped status)
  startsOnce : ∀ stage t u v, Step (c.commandFor w) s t → Starts stage s t →
    Reachable (c.commandFor w) t u → Step (c.commandFor w) u v → ¬Starts stage u v
  returned : ∀ failure, s.driver = .returned failure → s.unreaped = [] ∧
    ∀ sink clock id ticks,
      let run := ((replaying c sink clock).run w id s.happenings ticks).run
      run.failure = failure ∧ run.invokedStages = s.record.reverse.map Prod.fst
  interrupted : ∀ entry ∈ s.record, ∀ stage signal,
    entry.2.outcome (c.commandFor w entry.1) = .error (.interrupted stage signal) →
    ∀ t, Reachable (c.commandFor w) s t → t.children = s.children

theorem processes_tended {c : Config} {w : Workload} {s : State}
    (h : Reachable (c.commandFor w) .initial s) : Tended c w s := by
  have horderly := h.orderly
  constructor
  case oneAtATime => exact Nat.le_trans horderly.length_unreaped_le (length_current_le s)
  case startsAlone =>
    intro t step hlt
    refine horderly.unreaped_eq_nil ?_
    rw [State.current, (step.eq_start hlt).1]
  case recordsReaped =>
    intro t step hlt
    exact (horderly.step step).unreaped_eq_nil (step.current_of_record hlt)
  case numbered =>
    rw [horderly.pids, ← horderly.length_past, Nat.add_sub_cancel]
  case reaped => exact fun _ hentry _ hpid => horderly.reaped hentry hpid
  case startsOnce => exact fun _ _ _ _ step hstarts htu step' => hstarts.once h step htu step'
  case returned =>
    intro failure hdriver
    refine ⟨horderly.unreaped_of_returned hdriver, fun sink clock id ticks => ?_⟩
    exact ⟨failure_replay c sink clock w h hdriver id ticks,
      invokedStages_replay c sink clock w h hdriver id ticks⟩
  case interrupted =>
    intro entry hentry stage signal houtcome t ht
    rw [eq_of_interrupted h hentry houtcome ht]

/-- An interrupt ends the second stage. -/
theorem second_stage_interrupted :
    let w : Workload := ⟨⟨[0x77]⟩, by decide⟩
    let s : State := ⟨.returned (some (.interrupted .profilingRun .interrupt)), [.optimizedBuild],
      [.reaped 9, .reaped 0],
      [(.profilingRun, .signalled 2 .interrupt), (.instrumentedBuild, .ended 1 0)]⟩
    Reachable (Config.default.commandFor w) .initial s ∧ Tended Config.default w s := by
  intro w s
  have hsecond : Reachable (Config.default.commandFor w) .initial
      (State.watched .profilingRun [] [.optimizedBuild] [.reaped 0]
        [(.instrumentedBuild, .ended 1 0)]) := Reachable.refl.begin.pass.begin
  have hstops := (hsecond.tail (.signalArrives _ [] _ _ _ .interrupt)).tail
    (.noticeSignal _ _ _ .running _ _ .interrupt List.mem_cons_self)
  have hreaped : Reachable (Config.default.commandFor w) .initial s :=
    hstops.tail (.reap _ .interrupt _ _ _ 9)
  exact ⟨hreaped, processes_tended hreaped⟩

end Supervision

end ProfiledBuild
