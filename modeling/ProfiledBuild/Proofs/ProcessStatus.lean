import ProfiledBuild.Proofs.ExitCodes
import ProfiledBuild.Runner.Process

/-! The status of a run whose stages are processes. The first stage that does not end well decides
it, and it always fits in an octet. -/

namespace ProfiledBuild

namespace WaitStatus

def word (status : Int32) : Nat := status.toUInt32.toNat

/-- The code that a wait status stands for. The bit that tells of a core dump and all bits above the
second octet count for nothing. -/
def exitStatus (status : Int32) : Nat :=
  if word status % 128 = 0 then word status / 256 % 256
  else if word status % 128 < 127 then 128 + word status % 128
  else 1

theorem toInt_eq_word {n : Int32} (h : word n < 256) : n.toInt = word n := by
  have hsmall : 2 * n.toBitVec.toNat < 2 ^ 32 := by
    change 2 * word n < 2 ^ 32
    omega
  rw [← Int32.toInt_toBitVec, BitVec.toInt_eq_toNat_of_lt hsmall]
  rfl

theorem toInt_lowBits (status : Int32) :
    (status &&& 0x7F).toInt = (word status % 128 : Nat) := by
  have hword : word (status &&& 0x7F) = word status % 128 := by
    change (status.toBitVec &&& 127#32).toNat = _
    rw [BitVec.toNat_and]
    exact Nat.and_two_pow_sub_one_eq_mod _ 7
  rw [toInt_eq_word (by omega), hword]

/-- The shift fills up with the sign, but not below the bits that the mask keeps. -/
theorem sshiftRight_and_octet (x : BitVec 32) :
    x.sshiftRight 8 &&& 255#32 = x >>> 8 &&& 255#32 := by
  ext i hi
  have hmask : (255#32)[i] = decide (i < 8) := by
    rw [show (255#32) = BitVec.setWidth 32 (BitVec.allOnes 8) from rfl, BitVec.getElem_setWidth,
      BitVec.getLsbD_allOnes]
  rw [BitVec.getElem_and, BitVec.getElem_and, hmask]
  by_cases h : i < 8
  · rw [BitVec.getElem_sshiftRight, BitVec.getElem_ushiftRight, dif_pos (by omega),
      BitVec.getLsbD_eq_getElem]
  · simp [h]

theorem toInt_secondOctet (status : Int32) :
    ((status >>> 8) &&& 0xFF).toInt = (word status / 256 % 256 : Nat) := by
  have hword : word ((status >>> 8) &&& 0xFF) = word status / 256 % 256 := by
    change (status.toBitVec.sshiftRight 8 &&& 255#32).toNat = _
    rw [sshiftRight_and_octet, BitVec.toNat_and, BitVec.toNat_ushiftRight,
      Nat.shiftRight_eq_div_pow]
    exact Nat.and_two_pow_sub_one_eq_mod _ 8
  rw [toInt_eq_word (by omega), hword]

theorem exitStatus_le (status : Int32) : exitStatus status ≤ 255 := by
  unfold exitStatus
  split
  · omega
  · split <;> omega

end WaitStatus

namespace Exit

open WaitStatus

theorem toInt_exitCode_signal {number : Int32} (h : 0 ≤ number.toInt) (h' : number.toInt ≤ 126) :
    (signal number).exitCode.toInt = 128 + number.toInt := by
  rw [exitCode, Int32.toInt_add]
  change ((128 : Int) + number.toInt).bmod 4294967296 = _
  rw [Int.bmod_eq_of_le] <;> omega

/-- What a wait status is read as, with its numbers as the status has them. -/
theorem ofWaitStatus_cases (status : Int32) :
    (∃ value, ofWaitStatus status = .code value ∧ value.toInt = exitStatus status) ∨
      ∃ number, ofWaitStatus status = .signal number ∧ 0 < number.toInt ∧ number.toInt ≤ 126 ∧
        exitStatus status = 128 + number.toInt := by
  have hlow := toInt_lowBits status
  by_cases hzero : status &&& 0x7F = 0
  · have hword : word status % 128 = 0 := by
      rw [hzero] at hlow
      exact Int.natCast_eq_zero.mp hlow.symm
    refine Or.inl ⟨_, by rw [ofWaitStatus, if_pos hzero], ?_⟩
    rw [toInt_secondOctet, exitStatus, if_pos hword]
  · have hword : word status % 128 ≠ 0 := by
      intro h
      rw [h] at hlow
      exact hzero (Int32.toInt_inj.mp hlow)
    by_cases hones : status &&& 0x7F = 0x7F
    · have hword' : word status % 128 = 127 := by
        rw [hones] at hlow
        exact Int.natCast_inj.mp hlow.symm
      refine Or.inl ⟨1, by rw [ofWaitStatus, if_neg hzero, if_pos hones], ?_⟩
      rw [exitStatus, if_neg hword, if_neg (by omega)]
      rfl
    · have hword' : word status % 128 ≠ 127 := by
        intro h
        rw [h] at hlow
        exact hones (Int32.toInt_inj.mp hlow)
      refine Or.inr ⟨_, by rw [ofWaitStatus, if_neg hzero, if_neg hones], ?_⟩
      rw [hlow, exitStatus, if_neg hword, if_pos (by omega)]
      omega

theorem toInt_exitCode_ofWaitStatus (status : Int32) :
    (ofWaitStatus status).exitCode.toInt = exitStatus status := by
  rcases ofWaitStatus_cases status with ⟨value, h, hvalue⟩ | ⟨number, h, hpos, hle, hcode⟩
  · rw [h, exitCode, hvalue]
  · rw [h, toInt_exitCode_signal (by omega) hle, hcode]

theorem ofWaitStatus_eq_zero_iff {status : Int32} :
    ofWaitStatus status = .code 0 ↔ exitStatus status = 0 := by
  rcases ofWaitStatus_cases status with ⟨value, h, hvalue⟩ | ⟨number, h, hpos, hle, hcode⟩
  · rw [h, Exit.code.injEq, ← Int32.toInt_inj, hvalue]
    exact Int.natCast_eq_zero
  · rw [h]
    constructor
    · intro hfalse
      exact absurd hfalse (by simp)
    · intro hfalse
      omega

end Exit

namespace Happening

/-- The status that a happening stands for: zero for a process that has ended well. -/
def status : Happening → Nat
  | .notStarted error => if error.isNotFound then 127 else 126
  | .ended _ waitStatus => WaitStatus.exitStatus waitStatus
  | .waitFailed _ _ => 1
  | .signalled _ .interrupt => 130
  | .signalled _ .terminate => 143

theorem status_le (h : Happening) : h.status ≤ 255 := by
  cases h with
  | notStarted error => cases hn : error.isNotFound <;> simp [status, hn]
  | ended pid waitStatus => exact WaitStatus.exitStatus_le waitStatus
  | waitFailed pid error => simp [status]
  | signalled pid signal => cases signal <;> simp [status]

theorem status_eq_zero_iff {h : Happening} :
    h.status = 0 ↔ ∃ pid waitStatus, h = .ended pid waitStatus ∧ WaitStatus.exitStatus waitStatus = 0 := by
  cases h with
  | notStarted error => cases hn : error.isNotFound <;> simp [status, hn]
  | ended pid waitStatus =>
    constructor
    · exact fun h => ⟨pid, waitStatus, rfl, h⟩
    · rintro ⟨_, _, h, hzero⟩
      rw [h]
      exact hzero
  | waitFailed pid error => simp [status]
  | signalled pid signal => cases signal <;> simp [status]

theorem failureOf_outcome_eq_none_iff {stage : Stage} {c : StageCommand} {h : Happening} :
    Pipeline.failureOf stage (h.outcome c) = none ↔ h.status = 0 := by
  rw [Pipeline.failureOf_eq_none_iff]
  cases h with
  | notStarted error => cases hn : error.isNotFound <;> simp [outcome, status, hn]
  | ended pid waitStatus =>
    rw [outcome, status, Except.ok.injEq]
    exact Exit.ofWaitStatus_eq_zero_iff
  | waitFailed pid error => simp [outcome, status]
  | signalled pid signal => cases signal <;> simp [outcome, status]

theorem exitCode_of_failureOf {stage : Stage} {c : StageCommand} {h : Happening}
    {failure : Failure} (hf : Pipeline.failureOf stage (h.outcome c) = some failure) :
    failure.exitCode.toInt = h.status := by
  cases h with
  | notStarted error =>
    cases hn : error.isNotFound <;>
      simp [outcome, hn, Pipeline.failureOf] at hf <;> subst hf <;> simp [status, hn] <;> rfl
  | ended pid waitStatus =>
    rw [outcome, Pipeline.failureOf] at hf
    split at hf
    · exact absurd hf (by simp)
    · obtain rfl := Option.some.inj hf
      exact Exit.toInt_exitCode_ofWaitStatus waitStatus
  | waitFailed pid error =>
    obtain rfl := Option.some.inj hf
    rfl
  | signalled pid signal =>
    obtain rfl := Option.some.inj hf
    cases signal <;> rfl

end Happening

/-- What happens to commands in turn, if the environment goes on whatever becomes of them. -/
def happenings (attempt : ε → StageCommand → Attempt ε) : ε → List StageCommand → List Happening
  | _, [] => []
  | e, command :: rest =>
    (attempt e command).happening :: happenings attempt (attempt e command).environment rest

theorem length_happenings (attempt : ε → StageCommand → Attempt ε) (e : ε)
    (commands : List StageCommand) : (happenings attempt e commands).length = commands.length := by
  induction commands generalizing e with
  | nil => rfl
  | cons command rest ih => rw [happenings, List.length_cons, ih, List.length_cons]

def firstStatus (hs : List Happening) : Nat :=
  ((hs.map Happening.status).find? (· ≠ 0)).getD 0

@[simp] theorem firstStatus_nil : firstStatus [] = 0 := rfl

theorem firstStatus_cons (h : Happening) (hs : List Happening) :
    firstStatus (h :: hs) = if h.status = 0 then firstStatus hs else h.status := by
  by_cases hzero : h.status = 0 <;> simp [firstStatus, hzero]

theorem firstStatus_le (hs : List Happening) : firstStatus hs ≤ 255 := by
  induction hs with
  | nil => simp
  | cons h hs ih =>
    rw [firstStatus_cons]
    split
    · exact ih
    · exact h.status_le

theorem firstStatus_eq_zero_iff {hs : List Happening} :
    firstStatus hs = 0 ↔ ∀ h ∈ hs, h.status = 0 := by
  induction hs with
  | nil => simp
  | cons h hs ih =>
    rw [firstStatus_cons, List.forall_mem_cons]
    by_cases hzero : h.status = 0 <;> simp [hzero, ih]

/-- How the status of a run comes about: from the first stage that has not ended well. -/
structure Decided (run : Run) (hs : List Happening) : Prop where
  exitCode : run.exitCode.toInt = firstStatus hs
  inOctet : 0 ≤ run.exitCode.toInt ∧ run.exitCode.toInt ≤ 255
  octet : ((Run.statusOctet run.exitCode).toNat : Int) = run.exitCode.toInt
  zero : Run.statusOctet run.exitCode = 0 ↔
    ∀ h ∈ hs, ∃ pid status, h = .ended pid status ∧ WaitStatus.exitStatus status = 0
  signals : ∀ result ∈ run.results, ∀ number, result.exit = some (.signal number) →
    (Exit.signal number).exitCode.toInt = 128 + number.toInt

theorem Run.toNat_statusOctet_of_le {code : Int32} (h : 0 ≤ code.toInt) (h' : code.toInt ≤ 255) :
    ((statusOctet code).toNat : Int) = code.toInt := by
  have hlow : (0 : Int32) ≤ code := Int32.le_iff_toInt_le.mpr h
  have hhigh : code ≤ (255 : Int32) := Int32.le_iff_toInt_le.mpr h'
  rw [toNat_statusOctet ⟨hlow, hhigh⟩]
  exact (Int32.toInt_eq_toNatClampNeg hlow).symm

namespace Pipeline

section

variable (c : Config) (sink : Sink) (clock : Clock) (attempt : ε → StageCommand → Attempt ε)
  (w : Workload)

theorem exitCode_stop_visits (stages : List Stage) (e : ε) (ticks : Nat) :
    (((stop ((Pipeline.mk c sink (processRunner attempt) clock).visits w stages e ticks)).map
        Failure.exitCode).getD 0).toInt =
      firstStatus (happenings attempt e (stages.map (c.commandFor w))) := by
  induction stages generalizing e ticks with
  | nil => rfl
  | cons stage rest ih =>
    let p := Pipeline.mk c sink (processRunner attempt) clock
    have hfailure : (p.visit w stage e ticks).failure =
        failureOf stage ((attempt e (c.commandFor w stage)).happening.outcome
          (c.commandFor w stage)) := p.failure_visit w stage e ticks
    rw [List.map_cons, happenings, firstStatus_cons]
    cases hf : (p.visit w stage e ticks).failure with
    | some failure =>
      rw [hf] at hfailure
      have hstatus : (attempt e (c.commandFor w stage)).happening.status ≠ 0 := by
        intro hzero
        rw [Happening.failureOf_outcome_eq_none_iff.mpr hzero] at hfailure
        exact Option.some_ne_none failure hfailure
      rw [p.visits_of_failure rest hf, stop, List.findSome?_singleton, hf, if_neg hstatus]
      exact Happening.exitCode_of_failureOf hfailure.symm
    | none =>
      rw [hf] at hfailure
      rw [p.visits_of_success rest hf, stop, List.findSome?_cons, hf,
        if_pos (Happening.failureOf_outcome_eq_none_iff.mp hfailure.symm)]
      exact ih (attempt e (c.commandFor w stage)).environment (ticks + Visit.readings)

theorem exitCode_processes (id : RunId) (e : ε) (ticks : Nat) :
    ((Pipeline.mk c sink (processRunner attempt) clock).run w id e ticks).run.exitCode.toInt =
      firstStatus (happenings attempt e (c.plan w)) := by
  rw [(run_spec _ w id e ticks).1, exitCode_closed, Config.plan,
    ← exitCode_stop_visits c sink clock attempt w Stage.all e (ticks + 2), allVisits]
  cases stop ((Pipeline.mk c sink (processRunner attempt) clock).visits w Stage.all e
    (ticks + 2)) <;> rfl

theorem exitCode_signal_processes (id : RunId) (e : ε) (ticks : Nat) {result : StageResult}
    {number : Int32}
    (hmem : result ∈
      ((Pipeline.mk c sink (processRunner attempt) clock).run w id e ticks).run.results)
    (hexit : result.exit = some (.signal number)) :
    (Exit.signal number).exitCode.toInt = 128 + number.toInt := by
  rw [(run_spec _ w id e ticks).1, results_closed, List.mem_map] at hmem
  obtain ⟨v, hv, rfl⟩ := hmem
  obtain ⟨e', hanswer⟩ := exists_answer_of_mem_visits _ _ hv
  have houtcome : v.outcome = (attempt e' v.command).happening.outcome v.command := by
    rw [Visit.outcome, hanswer]
    rfl
  change v.outcome.toOption = _ at hexit
  rw [houtcome] at hexit
  cases hh : (attempt e' v.command).happening with
  | notStarted error =>
    rw [hh, Happening.outcome] at hexit
    cases hn : error.isNotFound <;> simp [hn, Except.toOption] at hexit
  | waitFailed pid error => simp [hh, Happening.outcome, Except.toOption] at hexit
  | signalled pid signal => simp [hh, Happening.outcome, Except.toOption] at hexit
  | ended pid status =>
    have hsignal : Exit.ofWaitStatus status = .signal number := by
      simpa [hh, Happening.outcome, Except.toOption] using hexit
    rcases Exit.ofWaitStatus_cases status with ⟨value, h, -⟩ | ⟨number', h, hpos, hle, -⟩
    · exact absurd (h.symm.trans hsignal) (by simp)
    · obtain rfl : number' = number := by simpa using h.symm.trans hsignal
      exact Exit.toInt_exitCode_signal (Int.le_of_lt hpos) hle

/-- Whatever happens to the three commands decides the status that the run ends with. -/
theorem run_status_decided (id : RunId) (e : ε) (ticks : Nat) :
    (happenings attempt e (c.plan w)).length = 3 ∧
      Decided ((Pipeline.mk c sink (processRunner attempt) clock).run w id e ticks).run
        (happenings attempt e (c.plan w)) := by
  have hcode := exitCode_processes c sink clock attempt w id e ticks
  have hle := firstStatus_le (happenings attempt e (c.plan w))
  have hrange : 0 ≤ (firstStatus (happenings attempt e (c.plan w)) : Int) ∧
      (firstStatus (happenings attempt e (c.plan w)) : Int) ≤ 255 := by omega
  refine ⟨by rw [length_happenings]; rfl, ?_⟩
  constructor
  case exitCode => exact hcode
  case inOctet => rw [hcode]; exact hrange
  case octet =>
    rw [← hcode] at hrange
    exact Run.toNat_statusOctet_of_le hrange.1 hrange.2
  case zero =>
    rw [Run.statusOctet_eq_zero_iff, ← Int32.toInt_inj, hcode]
    change (firstStatus _ : Int) = 0 ↔ _
    rw [Int.natCast_eq_zero, firstStatus_eq_zero_iff]
    exact forall₂_congr fun h _ => Happening.status_eq_zero_iff
  case signals =>
    intro result hmem number hexit
    exact exitCode_signal_processes c sink clock attempt w id e ticks hmem hexit

end

end Pipeline

end ProfiledBuild
