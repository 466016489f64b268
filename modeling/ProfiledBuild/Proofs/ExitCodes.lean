import ProfiledBuild.Proofs.Gating
import ProfiledBuild.Runner.Recording

/-! When the exit code of a run is zero. Signals count from 128 in a sum that wraps around, so there
is one number, and no signal of the system has it, that takes a failed run to code zero. An error
that carries an exit is taken at its word. -/

namespace ProfiledBuild

def Exit.isZero : Exit → Bool
  | .code value => value = 0
  | .signal number => number = -128

def Outcome.readsAsZero : Outcome → Bool
  | .ok exit => !exit.succeeded && exit.isZero
  | .error (.stageFailed _ exit) => exit.isZero
  | .error _ => false

theorem Exit.exitCode_eq_zero_iff {exit : Exit} : exit.exitCode = 0 ↔ exit.isZero = true := by
  cases exit with
  | code value => simp [exitCode, isZero]
  | signal number =>
    have hsum : 128 + number = 0 ↔ number = -128 := by
      constructor
      · intro h
        rw [← Int32.add_right_inj 128, h]
        rfl
      · rintro rfl
        rfl
    simpa [exitCode, isZero] using hsum

theorem Failure.exitCode_eq_zero_iff {failure : Failure} :
    failure.exitCode = 0 ↔ Outcome.readsAsZero (.error failure) = true := by
  cases failure with
  | stageFailed stage exit => exact Exit.exitCode_eq_zero_iff
  | interrupted stage signal =>
    cases signal <;> simp [exitCode, ShutdownSignal.exitCode, Outcome.readsAsZero]
  | emptyWorkload => simp [exitCode, usageCode, Outcome.readsAsZero]
  | missingCommand => simp [exitCode, missingCommandCode, Outcome.readsAsZero]
  | spawn => simp [exitCode, spawnCode, Outcome.readsAsZero]
  | system => simp [exitCode, Outcome.readsAsZero]

theorem Outcome.readsAsZero_iff {outcome : Outcome} (stage : Stage) :
    outcome.readsAsZero = true ↔
      ∃ failure, Pipeline.failureOf stage outcome = some failure ∧ failure.exitCode = 0 := by
  cases outcome with
  | ok exit =>
    cases h : exit.succeeded <;>
      simp [readsAsZero, Pipeline.failureOf, Failure.exitCode_eq_zero_iff, h]
  | error failure => simp [Pipeline.failureOf, Failure.exitCode_eq_zero_iff]

theorem Run.toNat_statusOctet {code : Int32} (h : 0 ≤ code ∧ code ≤ 255) :
    (statusOctet code).toNat = code.toNatClampNeg := by
  have hhigh : code.toInt ≤ 255 := Int32.le_iff_toInt_le.mp h.2
  rw [statusOctet, if_pos h, UInt8.toNat_ofNat', ← Int32.toNat_toInt]
  omega

theorem Run.statusOctet_eq_zero_iff {code : Int32} : statusOctet code = 0 ↔ code = 0 := by
  by_cases h : 0 ≤ code ∧ code ≤ 255
  · have hlow : 0 ≤ code.toInt := Int32.le_iff_toInt_le.mp h.1
    rw [← UInt8.toNat_inj, toNat_statusOctet h, ← Int32.toInt_inj, ← Int32.toNat_toInt]
    change code.toInt.toNat = 0 ↔ code.toInt = 0
    omega
  · rw [statusOctet, if_neg h]
    constructor
    · intro hone
      exact absurd hone (by decide)
    · rintro rfl
      exact absurd (by decide) h

namespace Pipeline

variable (p : Pipeline σ) (w : Workload) (id : RunId) (s : σ) (ticks : Nat)

theorem stop_eq_none_iff :
    stop (p.allVisits w s ticks) = none ↔
      (p.allVisits w s ticks).map Visit.outcome = List.replicate 3 (.ok (.code 0)) := by
  simp only [stop, List.findSome?_eq_none_iff, Visit.failure_eq_none_iff, List.eq_replicate_iff,
    List.length_map, List.mem_map, forall_exists_index, and_imp, forall_apply_eq_imp_iff₂]
  constructor
  · intro h
    refine ⟨p.length_of_stop_eq_none w (List.findSome?_eq_none_iff.mpr ?_), h⟩
    exact fun v hv => Visit.failure_eq_none_iff.mpr (h v hv)
  · exact And.right

theorem exitCode_closed_eq_zero_iff :
    (p.closed w id s ticks).exitCode = 0 ↔
      stop (p.allVisits w s ticks) = none ∨
        ∃ v ∈ p.allVisits w s ticks, v.outcome.readsAsZero = true := by
  have hstop : (∃ v ∈ p.allVisits w s ticks, v.outcome.readsAsZero = true) ↔
      ∃ failure, stop (p.allVisits w s ticks) = some failure ∧ failure.exitCode = 0 := by
    constructor
    · rintro ⟨v, hv, hzero⟩
      obtain ⟨failure, hfailure, hcode⟩ := (Outcome.readsAsZero_iff v.command.stage).mp hzero
      exact ⟨failure, (p.stop_eq_some_iff w).mpr ⟨v, hv, hfailure⟩, hcode⟩
    · rintro ⟨failure, hfailure, hcode⟩
      obtain ⟨v, hv, hv'⟩ := (p.stop_eq_some_iff w).mp hfailure
      exact ⟨v, hv, (Outcome.readsAsZero_iff v.command.stage).mpr ⟨failure, hv', hcode⟩⟩
  rw [hstop, exitCode_closed]
  cases stop (p.allVisits w s ticks) <;> simp

theorem exitCode_iff_isSuccess_closed :
    ((p.closed w id s ticks).exitCode = 0 ↔ (p.closed w id s ticks).isSuccess = true) ↔
      ∀ v ∈ p.allVisits w s ticks, v.outcome.readsAsZero = false := by
  rw [exitCode_closed_eq_zero_iff, isSuccess_closed]
  constructor
  · intro h v hv
    rw [← Bool.not_eq_true]
    intro hzero
    have hstop := h.mp (Or.inr ⟨v, hv, hzero⟩)
    obtain ⟨failure, hfailure, -⟩ := (Outcome.readsAsZero_iff v.command.stage).mp hzero
    have hsome := (p.stop_eq_some_iff w).mpr ⟨v, hv, hfailure⟩
    exact Option.some_ne_none _ (hsome.symm.trans hstop)
  · intro h
    refine or_iff_left ?_
    rintro ⟨v, hv, hzero⟩
    rw [h v hv] at hzero
    exact Bool.false_ne_true hzero

/-- A run is a success when all three stages answer with code zero. Its exit code and its status
octet tell so, unless the runner gives an outcome that reads as zero and is no success. -/
theorem zero_iff_isSuccess_iff :
    ((p.run w id s ticks).run.isSuccess = true ↔
        (p.calls w id s ticks).map Call.outcome = List.replicate 3 (.ok (.code 0))) ∧
      (((p.run w id s ticks).run.exitCode = 0 ↔ (p.run w id s ticks).run.isSuccess = true) ↔
        ∀ outcome ∈ (p.calls w id s ticks).map Call.outcome, outcome.readsAsZero = false) ∧
      ((Run.statusOctet (p.run w id s ticks).run.exitCode = 0 ↔
          (p.run w id s ticks).run.isSuccess = true) ↔
        ∀ outcome ∈ (p.calls w id s ticks).map Call.outcome, outcome.readsAsZero = false) := by
  have hzero := p.exitCode_iff_isSuccess_closed w id s ticks
  rw [(p.run_spec w id s ticks).1, calls_map_outcome, List.forall_mem_map,
    Run.statusOctet_eq_zero_iff]
  refine ⟨?_, hzero, hzero⟩
  rw [isSuccess_closed, stop_eq_none_iff]

/-- The run of a rehearsal whose first stage is told to end by signal -128. -/
def wrappedRun : Run :=
  (Pipeline.run ⟨Config.default, .discarding, Recording.run, fun _ => default⟩
    ⟨⟨[0x77]⟩, by decide⟩ (.ofRandom 0 0)
    (Recording.untold.withExit .instrumentedBuild (.signal (-128))) 0).run

theorem wrappedRun_reads_as_zero :
    wrappedRun.isSuccess = false ∧ wrappedRun.exitCode = 0 ∧
      Run.statusOctet wrappedRun.exitCode = 0 := by
  let p : Pipeline Recording := ⟨Config.default, .discarding, Recording.run, fun _ => default⟩
  let w : Workload := ⟨⟨[0x77]⟩, by decide⟩
  let s := Recording.untold.withExit .instrumentedBuild (.signal (-128))
  have hrun : wrappedRun = p.closed w (.ofRandom 0 0) s 0 := (p.run_spec _ _ s 0).1
  have hfails : stop (p.allVisits w s 0) ≠ none := by decide
  have hzero : wrappedRun.exitCode = 0 := by
    rw [hrun, exitCode_closed_eq_zero_iff]
    exact Or.inr ⟨p.visit w .instrumentedBuild s 2, List.mem_cons_self, by decide⟩
  refine ⟨?_, hzero, Run.statusOctet_eq_zero_iff.mpr hzero⟩
  rw [← Bool.not_eq_true, hrun, isSuccess_closed]
  exact hfails

end Pipeline

end ProfiledBuild
