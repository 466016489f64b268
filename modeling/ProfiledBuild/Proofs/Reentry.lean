import Mathlib.Data.List.Pairwise
import ProfiledBuild.Proofs.Operations

/-! Runs that are never finished. They come to their end all the same if a stage is entered that
they have left behind, and then they count as successful. -/

namespace ProfiledBuild

namespace Stage

def place (stage : Stage) : Nat := all.idxOf stage

/-- No stage comes after one that has its place behind it. -/
def InOrder (stages : List Stage) : Prop := stages.Pairwise fun s t => s.place ≤ t.place

instance (stages : List Stage) : Decidable (InOrder stages) :=
  inferInstanceAs (Decidable (stages.Pairwise _))

theorem remaining_add_place (stage : Stage) :
    (RunState.running stage).remaining + stage.place = 3 := by
  cases stage <;> decide

theorem inOrder_cons_cons {s t : Stage} {stages : List Stage} :
    InOrder (s :: t :: stages) ↔ s.place ≤ t.place ∧ InOrder (t :: stages) := by
  have : IsTrans Stage fun s t => s.place ≤ t.place := ⟨fun _ _ _ => Nat.le_trans⟩
  exact List.pairwise_cons_cons_iff_of_trans

end Stage

namespace RunState

open Stage

theorem enter_start (stage : Stage) : RunState.start.enter stage = .running stage :=
  enter_of_le (by cases stage <;> decide)

theorem enter_of_place_le {current stage : Stage} (h : current.place ≤ stage.place) :
    (running current).enter stage = .running stage := by
  have hcurrent := current.remaining_add_place
  have hstage := stage.remaining_add_place
  exact enter_of_le (by omega)

theorem enter_of_place_lt {current stage : Stage} (h : stage.place < current.place) :
    (running current).enter stage = .done := by
  have hcurrent := current.remaining_add_place
  have hstage := stage.remaining_add_place
  exact enter_of_lt (by simp) (by omega)

theorem enter_eq_done_iff {state : RunState} (h : state ≠ .done) {stage : Stage} :
    state.enter stage = .done ↔
      ∃ current, state = .running current ∧ stage.place < current.place := by
  cases state with
  | start => simp [enter_start]
  | done => exact absurd rfl h
  | failed =>
    rw [enter_of_terminal rfl]
    simp
  | running current =>
    by_cases hplace : current.place ≤ stage.place
    · simp [enter_of_place_le hplace, hplace]
    · simp [enter_of_place_lt (Nat.lt_of_not_le hplace), Nat.lt_of_not_le hplace]

theorem fail_eq_done_iff {state : RunState} : state.fail = .done ↔ state = .done := by
  cases state <;> simp [fail]

theorem enterAll_cons (state : RunState) (stage : Stage) (stages : List Stage) :
    state.enterAll (stage :: stages) = (state.enter stage).enterAll stages := rfl

theorem enterAll_done (stages : List Stage) : RunState.done.enterAll stages = .done := by
  induction stages with
  | nil => rfl
  | cons stage rest ih => rw [enterAll_cons, enter_of_terminal rfl, ih]

theorem enterAll_running_eq_done_iff (current : Stage) (stages : List Stage) :
    (running current).enterAll stages = .done ↔ ¬InOrder (current :: stages) := by
  induction stages generalizing current with
  | nil => exact iff_of_false (by simp [enterAll]) (not_not_intro (List.pairwise_singleton _ _))
  | cons stage rest ih =>
    rw [enterAll_cons, inOrder_cons_cons]
    by_cases h : current.place ≤ stage.place
    · rw [enter_of_place_le h, ih, and_iff_right h]
    · rw [enter_of_place_lt (Nat.lt_of_not_le h), enterAll_done]
      exact iff_of_true rfl (fun hboth => h hboth.1)

theorem enterAll_start_eq_done_iff (stages : List Stage) :
    RunState.start.enterAll stages = .done ↔ ¬InOrder stages := by
  cases stages with
  | nil => exact iff_of_false (by simp [enterAll]) (not_not_intro List.Pairwise.nil)
  | cons stage rest => rw [enterAll_cons, enter_start, enterAll_running_eq_done_iff]

end RunState

namespace Run

open Stage

def Operation.isFail : Operation → Bool
  | .fail .. => true
  | _ => false

/-- The stages entered until a failure is first reported. -/
def enteredUntilFailure (ops : List Operation) : List Stage :=
  (ops.takeWhile fun op => !op.isFail).filterMap Operation.stage?

variable {r : Run}

/-- Besides finishing, one operation takes a run to its end: entering a stage left behind. -/
theorem state_perform_eq_done_iff (h : r.state ≠ .done) {op : Operation}
    (hop : op.isFinish = false) :
    (r.perform op).state = .done ↔ ∃ stage current,
      op = .enter stage ∧ r.state = .running current ∧ stage.place < current.place := by
  cases op with
  | enter stage =>
    rw [perform, enter, RunState.enter_eq_done_iff h]
    simp
  | record result => simpa [perform, record] using h
  | finish now => cases hop
  | fail failure now => simpa [perform, fail, RunState.fail_eq_done_iff] using h

theorem state_performAll_eq_done_iff {ops : List Operation}
    (h : ∀ op ∈ ops, op.isFinish = false) :
    (r.performAll ops).state = .done ↔ r.state.enterAll (enteredUntilFailure ops) = .done := by
  induction ops generalizing r with
  | nil => exact Iff.rfl
  | cons op ops ih =>
    obtain ⟨hop, hops⟩ := List.forall_mem_cons.mp h
    rw [performAll_cons]
    cases op with
    | enter stage => exact ih hops
    | record result => exact ih hops
    | finish now => cases hop
    | fail failure now =>
      have hterminal : (r.perform (.fail failure now)).state.isTerminal = true :=
        RunState.isTerminal_fail r.state
      rw [state_performAll_of_terminal hterminal]
      exact RunState.fail_eq_done_iff

/-- A run that is never finished counts as successful exactly if, before it is first told of a
failure, it enters a stage that comes before one it has entered. Otherwise its exit code is that of
the last failure, or one. -/
theorem unfinished_success_iff (w : Workload) (id : RunId) (now : Timestamp) (ops : List Operation)
    (h : ∀ op ∈ ops, op.isFinish = false) :
    let r := (ofWorkload w id now).performAll ops
    (r.isSuccess = true ↔ ¬InOrder (enteredUntilFailure ops)) ∧
      (InOrder (enteredUntilFailure ops) → r.state ≠ .done ∧
        r.exitCode = ((ops.filterMap Operation.failure?).getLast?.map Failure.exitCode).getD 1) ∧
      (r.state ≠ .done → ∀ op : Operation, op.isFinish = false →
        ((r.perform op).state = .done ↔ ∃ stage current,
          op = .enter stage ∧ r.state = .running current ∧ stage.place < current.place)) := by
  intro r
  have hdone : r.state = .done ↔ ¬InOrder (enteredUntilFailure ops) :=
    (state_performAll_eq_done_iff h).trans (RunState.enterAll_start_eq_done_iff _)
  have hfailure : r.failure = (ops.filterMap Operation.failure?).getLast? :=
    (failure_performAll _ ops).trans Option.or_none
  refine ⟨?_, fun horder => ?_, fun hstate op hop => state_perform_eq_done_iff hstate hop⟩
  · rw [isSuccess, decide_eq_true_iff, hdone]
  · have hstate : r.state ≠ .done := fun he => hdone.mp he horder
    exact ⟨hstate, by rw [exitCode_of_ne_done hstate, hfailure]⟩

def sample : Run := ofWorkload ⟨⟨[0x61]⟩, by decide⟩ (.ofRandom 0 0) default

/-- The first build is skipped over, the optimized build is interrupted, and then an earlier stage
is entered. -/
def interrupted : List Operation :=
  [.enter .profilingRun, .enter .optimizedBuild,
    .fail (.interrupted .optimizedBuild .interrupt) default, .enter .instrumentedBuild]

theorem interrupted_unsuccessful :
    (∀ op ∈ interrupted, op.isFinish = false) ∧
      enteredUntilFailure interrupted = [.profilingRun, .optimizedBuild] ∧
      (sample.performAll interrupted).isSuccess = false ∧
      (sample.performAll interrupted).exitCode = 130 := by
  have hunfinished : ∀ op ∈ interrupted, op.isFinish = false := by decide
  obtain ⟨hsuccess, hcode, -⟩ :=
    unfinished_success_iff ⟨⟨[0x61]⟩, by decide⟩ (.ofRandom 0 0) default interrupted hunfinished
  have horder : InOrder (enteredUntilFailure interrupted) := by decide
  refine ⟨hunfinished, rfl, ?_, ?_⟩
  · exact Bool.eq_false_iff.mpr fun h => hsuccess.mp h horder
  · exact (hcode horder).2

/-- The last stage is entered, and then the first one. -/
def rewound : List Operation := [.enter .optimizedBuild, .enter .instrumentedBuild]

theorem rewound_succeeds :
    (∀ op ∈ rewound, op.isFinish = false) ∧ (sample.performAll rewound).results = [] ∧
      (sample.performAll rewound).isSuccess = true ∧
      (sample.performAll rewound).exitCode = 0 := by
  have hstate : (sample.performAll rewound).state = .done := by
    change (RunState.start.enter .optimizedBuild).enter .instrumentedBuild = .done
    rw [RunState.enter_start, RunState.enter_of_place_lt (by decide)]
  refine ⟨by decide, rfl, ?_, ?_⟩
  · rw [isSuccess, hstate]
    rfl
  · rw [exitCode, hstate]

end Run

end ProfiledBuild
