import ProfiledBuild.Proofs.Course
import ProfiledBuild.Proofs.Visits

/-! What is done to the record of a run, in any order. A run that is over stays as it is, one that
has failed holds its failure, and the results are those that were recorded. Besides finishing there
is one way to bring a run to its end: to enter a stage that it has left behind. -/

namespace ProfiledBuild

namespace RunState

variable {state : RunState} {stage : Stage}

/-- The loop ends: after some advances, and at most as many as there are to the end, the stage runs
or the run is over. Before that neither is the case. -/
theorem enter_loop (stage : Stage) (state : RunState) :
    ∃ n ≤ state.remaining, state.enter stage = advance^[n] state ∧
      (state.enter stage = .running stage ∨ (state.enter stage).isTerminal = true) ∧
      ∀ m < n, advance^[m] state ≠ .running stage ∧ (advance^[m] state).isTerminal = false := by
  fun_induction enter stage state with
  | case1 state h => exact ⟨0, Nat.zero_le _, rfl, h, fun _ hm => absurd hm (Nat.not_lt_zero _)⟩
  | case2 state h ih =>
    obtain ⟨n, hn, henter, hends, hbefore⟩ := ih
    obtain ⟨hne, hopen⟩ := not_or.mp h
    have hopen : state.isTerminal = false := Bool.eq_false_iff.mpr hopen
    refine ⟨n + 1, ?_, henter, hends, fun m hm => ?_⟩
    · rw [remaining_of_not_terminal hopen]
      exact Nat.succ_le_succ hn
    · cases m with
      | zero => exact ⟨hne, hopen⟩
      | succ m => exact hbefore m (Nat.lt_of_succ_lt_succ hm)

theorem enter_of_terminal (h : state.isTerminal = true) : state.enter stage = state := by
  rw [enter, if_pos (Or.inr h)]

theorem enter_eq_failed_iff : state.enter stage = .failed ↔ state = .failed := by
  obtain ⟨n, -, henter, -⟩ := enter_loop stage state
  rw [henter, iterate_eq_failed_iff]

theorem eq_running_of_remaining (h : state.remaining = (running stage).remaining) :
    state = .running stage := by
  revert state
  cases stage <;> decide

theorem remaining_running_pos (stage : Stage) : 0 < (running stage).remaining :=
  isTerminal_eq_false_iff.mp rfl

/-- A stage that is still ahead, or running, is entered. -/
theorem enter_of_le (h : (running stage).remaining ≤ state.remaining) :
    state.enter stage = .running stage := by
  have hpos := remaining_running_pos stage
  fun_induction enter stage state with
  | case1 state hends =>
    have hopen : state.isTerminal = false := isTerminal_eq_false_iff.mpr (by omega)
    exact hends.resolve_right (by simp [hopen])
  | case2 state hgoes ih =>
    have hopen : state.isTerminal = false := isTerminal_eq_false_iff.mpr (by omega)
    have hone := remaining_of_not_terminal hopen
    have hne : state.remaining ≠ (running stage).remaining := fun he =>
      hgoes (Or.inl (eq_running_of_remaining he))
    exact ih (by omega)

/-- To enter a stage that has been left behind is to go on to the end. -/
theorem enter_of_lt (hstate : state ≠ .failed) (h : state.remaining < (running stage).remaining) :
    state.enter stage = .done := by
  fun_induction enter stage state with
  | case1 state hends =>
    rcases hends with rfl | hterminal
    · exact absurd h (Nat.lt_irrefl _)
    · exact (isTerminal_eq_true_iff.mp hterminal).resolve_right hstate
  | case2 state hgoes ih =>
    have hopen : state.isTerminal = false := Bool.eq_false_iff.mpr (not_or.mp hgoes).2
    have hone := remaining_of_not_terminal hopen
    exact ih (advance_eq_failed_iff.not.mpr hstate) (by omega)

end RunState

namespace Run

/-- What can be done to the record of a run. -/
inductive Operation where
  | enter (stage : Stage)
  | record (result : StageResult)
  | finish (now : Timestamp)
  | fail (failure : Failure) (now : Timestamp)

namespace Operation

def stage? : Operation → Option Stage
  | .enter stage => some stage
  | _ => none

def result? : Operation → Option StageResult
  | .record result => some result
  | _ => none

def failure? : Operation → Option Failure
  | .fail failure _ => some failure
  | _ => none

def isFinish : Operation → Bool
  | .finish _ => true
  | _ => false

end Operation

def perform (r : Run) : Operation → Run
  | .enter stage => r.enter stage
  | .record result => r.record result
  | .finish now => r.finish now
  | .fail failure now => r.fail failure now

def performAll (r : Run) (ops : List Operation) : Run := ops.foldl perform r

/-- What holds of a run after some operations on a new record of it. -/
structure Tracked (w : Workload) (id : RunId) (ops : List Operation) (r : Run) : Prop where
  loops : ∀ stage, ∃ n ≤ r.state.remaining,
    (r.enter stage).state = RunState.advance^[n] r.state ∧
      ((r.enter stage).state = .running stage ∨ (r.enter stage).state.isTerminal = true) ∧
      ∀ m < n, RunState.advance^[m] r.state ≠ .running stage ∧
        (RunState.advance^[m] r.state).isTerminal = false
  ended : r.state.isTerminal = true → ∀ more, (r.performAll more).state = r.state
  failed : r.state = .failed → ∃ failure, r.failure = some failure ∧ r.exitCode = failure.exitCode
  fallback : r.state ≠ .done ∧ r.failure = none ↔ r.state.isTerminal = false
  underway : r.state.isTerminal = false → r.exitCode = 1
  done : r.state = .done → ∀ more, (r.performAll more).exitCode = 0
  failure : r.failure = (ops.filterMap Operation.failure?).getLast?
  results : r.results = ops.filterMap Operation.result?
  workload : r.workload = w
  id : r.id = id

/-- A run that goes on holds no failure, and one that has failed holds one. -/
structure Explained (r : Run) : Prop where
  underway : r.state.isTerminal = false → r.failure = none
  failed : r.state = .failed → r.failure ≠ none

variable {r : Run}

theorem performAll_cons (r : Run) (op : Operation) (ops : List Operation) :
    r.performAll (op :: ops) = (r.perform op).performAll ops := rfl

theorem state_perform_of_terminal (h : r.state.isTerminal = true) (op : Operation) :
    (r.perform op).state = r.state := by
  cases op with
  | enter stage => exact RunState.enter_of_terminal h
  | record result => rfl
  | finish now => exact RunState.advance_of_terminal h
  | fail failure now => exact RunState.fail_of_terminal h

theorem not_terminal_of_perform {op : Operation} (h : (r.perform op).state.isTerminal = false) :
    r.state.isTerminal = false := by
  rw [← Bool.not_eq_true] at h ⊢
  exact fun hterminal => h (by rw [state_perform_of_terminal hterminal, hterminal])

theorem state_performAll_of_terminal (h : r.state.isTerminal = true) (ops : List Operation) :
    (r.performAll ops).state = r.state := by
  induction ops generalizing r with
  | nil => rfl
  | cons op ops ih =>
    have hop := state_perform_of_terminal h op
    exact (ih (by rw [hop, h])).trans hop

theorem Explained.perform (h : Explained r) (op : Operation) : Explained (r.perform op) := by
  constructor
  case underway =>
    intro hopen
    have hbefore := h.underway (not_terminal_of_perform hopen)
    cases op with
    | enter stage => exact hbefore
    | record result => exact hbefore
    | finish now => exact hbefore
    | fail failure now => cases (RunState.isTerminal_fail r.state).symm.trans hopen
  case failed =>
    intro hfailed
    cases op with
    | enter stage => exact h.failed (RunState.enter_eq_failed_iff.mp hfailed)
    | record result => exact h.failed hfailed
    | finish now => exact h.failed (RunState.advance_eq_failed_iff.mp hfailed)
    | fail failure now => exact Option.some_ne_none failure

theorem Explained.performAll (h : Explained r) (ops : List Operation) :
    Explained (r.performAll ops) := by
  induction ops generalizing r with
  | nil => exact h
  | cons op ops ih => exact ih (h.perform op)

theorem results_performAll (r : Run) (ops : List Operation) :
    (r.performAll ops).results = r.results ++ ops.filterMap Operation.result? := by
  induction ops generalizing r with
  | nil => exact (List.append_nil _).symm
  | cons op ops ih =>
    rw [performAll_cons, ih]
    cases op with
    | record result => exact List.append_assoc ..
    | enter stage => rfl
    | finish now => rfl
    | fail failure now => rfl

theorem failure_performAll (r : Run) (ops : List Operation) :
    (r.performAll ops).failure = (ops.filterMap Operation.failure?).getLast?.or r.failure := by
  induction ops generalizing r with
  | nil => rfl
  | cons op ops ih =>
    rw [performAll_cons, ih]
    cases op with
    | fail failure now =>
      have hcons : (Operation.fail failure now :: ops).filterMap Operation.failure? =
          failure :: ops.filterMap Operation.failure? := rfl
      rw [hcons, List.getLast?_cons]
      cases (ops.filterMap Operation.failure?).getLast? <;> rfl
    | enter stage => rfl
    | record result => rfl
    | finish now => rfl

theorem kept_performAll (r : Run) (ops : List Operation) :
    (r.performAll ops).workload = r.workload ∧ (r.performAll ops).id = r.id := by
  induction ops generalizing r with
  | nil => exact ⟨rfl, rfl⟩
  | cons op ops ih =>
    obtain ⟨hworkload, hid⟩ := ih (r.perform op)
    refine ⟨hworkload.trans ?_, hid.trans ?_⟩
    · cases op <;> rfl
    · cases op <;> rfl

theorem ne_done_of_not_terminal (h : r.state.isTerminal = false) : r.state ≠ .done := by
  intro hdone
  rw [hdone] at h
  cases h

theorem exitCode_of_ne_done (h : r.state ≠ .done) :
    r.exitCode = (r.failure.map Failure.exitCode).getD 1 := by
  rw [exitCode]
  cases hs : r.state with
  | done => exact absurd hs h
  | start => cases r.failure <;> rfl
  | running stage => cases r.failure <;> rfl
  | failed => cases r.failure <;> rfl

section

variable (w : Workload) (id : RunId) (now : Timestamp) (ops : List Operation)

theorem explained_ofWorkload : Explained (ofWorkload w id now) :=
  ⟨fun _ => rfl, fun h => by cases h⟩

theorem operations_tracked : Tracked w id ops ((ofWorkload w id now).performAll ops) := by
  have hexplained := (explained_ofWorkload w id now).performAll ops
  generalize hr : (ofWorkload w id now).performAll ops = r at hexplained
  constructor
  case loops => exact fun stage => RunState.enter_loop stage r.state
  case ended => exact fun h more => state_performAll_of_terminal h more
  case failed =>
    intro h
    obtain ⟨failure, hfailure⟩ := Option.ne_none_iff_exists'.mp (hexplained.failed h)
    refine ⟨failure, hfailure, ?_⟩
    rw [exitCode_of_ne_done (by simp [h]), hfailure]
    rfl
  case fallback =>
    constructor
    · rintro ⟨hdone, hnone⟩
      rw [← Bool.not_eq_true, RunState.isTerminal_eq_true_iff]
      rintro (h | h)
      · exact hdone h
      · exact hexplained.failed h hnone
    · intro h
      exact ⟨ne_done_of_not_terminal h, hexplained.underway h⟩
  case underway =>
    intro h
    rw [exitCode_of_ne_done (ne_done_of_not_terminal h), hexplained.underway h]
    rfl
  case done =>
    intro h more
    have hterminal : r.state.isTerminal = true := RunState.isTerminal_eq_true_iff.mpr (Or.inl h)
    rw [exitCode, state_performAll_of_terminal hterminal more, h]
  case failure =>
    rw [← hr, failure_performAll]
    exact Option.or_none
  case results =>
    rw [← hr, results_performAll]
    rfl
  case workload =>
    rw [← hr]
    exact (kept_performAll _ ops).1
  case id =>
    rw [← hr]
    exact (kept_performAll _ ops).2

end

end Run

end ProfiledBuild
