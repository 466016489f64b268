import ProfiledBuild.Program
import ProfiledBuild.Proofs.Invocations
import ProfiledBuild.Proofs.ProgramSearch

/-! Stages as processes of a host. What an attempt comes to is decided by how its program is found,
and then by how the process and its driver stand in the end. What belongs to the driver alone is
after a stage as it was before, and so it is after a whole run. -/

namespace ProfiledBuild

namespace Ending

def status : Ending → Nat
  | .exited status => status % 256
  | .killed signal => 128 + signal
  | .cutOff => 137

/-- Signals that processes die of are those below 127. -/
def IsReal : Ending → Prop
  | .killed signal => 0 < signal ∧ signal < 127
  | _ => True

theorem word_ofNat {n : Nat} (h : n < 4294967296) : WaitStatus.word (Int32.ofNat n) = n := by
  change (BitVec.ofNat 32 n).toNat = n
  rw [BitVec.toNat_ofNat]
  exact Nat.mod_eq_of_lt h

theorem exitStatus_waitStatus {ending : Ending} (hreal : ending.IsReal) :
    WaitStatus.exitStatus ending.waitStatus = ending.status := by
  cases ending with
  | exited status =>
    have hlt : status % 256 * 256 < 4294967296 := by omega
    rw [waitStatus, WaitStatus.exitStatus, word_ofNat hlt, if_pos (by omega), Ending.status]
    omega
  | killed signal =>
    obtain ⟨hpos, hlt⟩ := hreal
    have hlow : signal % 128 = signal := by omega
    rw [waitStatus, WaitStatus.exitStatus, word_ofNat (by omega), hlow, if_neg (by omega),
      if_pos hlt, Ending.status]
  | cutOff => decide

end Ending

namespace Host

/-- The program that a command stands for, with the arguments that it gets. -/
def imageOf (h : Host) (p : Shell.Process) (c : StageCommand) : Except StartError Image :=
  h.find p.searchPath (Raw.ofOctets c.program.octets) (c.args.map Raw.ofOctets)

/-- Nothing keeps the driver from looking for a command's program. -/
structure IsReady (h : Host) (c : StageCommand) : Prop where
  alive : h.driver.endedBy = none
  noNul : hasNul c = false

/-- What a stage leaves to its driver as it was. -/
structure Kept (h h' : Host) : Prop where
  directory : h'.directory = h.directory
  mask : h'.mask = h.mask
  waiting : h'.waiting = h.waiting
  fault : h'.fault = h.fault

theorem Kept.refl (h : Host) : Kept h h := ⟨rfl, rfl, rfl, rfl⟩

theorem Kept.trans {h₁ h₂ h₃ : Host} (h₁₂ : Kept h₁ h₂) (h₂₃ : Kept h₂ h₃) : Kept h₁ h₃ where
  directory := h₂₃.directory.trans h₁₂.directory
  mask := h₂₃.mask.trans h₁₂.mask
  waiting := h₂₃.waiting.trans h₁₂.waiting
  fault := h₂₃.fault.trans h₁₂.fault

/-- A host between two stages: no shutdown is left to carry out, and signals are kept for those
processes only that can still take them. -/
structure AtRest (h : Host) : Prop where
  shutdown : h.driver.shutdown = none
  sent : ∀ signal ∈ h.sent, signal.1 ∈ h.waiting

theorem atRest_ofFiles (files : List (Octets × Octets × Bool))
    (environment : List (Octets × Octets)) (input : Octets) :
    AtRest (ofFiles files environment input) where
  shutdown := rfl
  sent := by simp [ofFiles]

/-- Why a command's program is not started. -/
inductive Prevented (p : Shell.Process) (h : Host) (c : StageCommand) : SystemError → Prop where
  | lost (signal : Nat) (hended : h.driver.endedBy = some signal) : Prevented p h c lostDriver
  | nul (halive : h.driver.endedBy = none) (hnul : hasNul c = true) : Prevented p h c nulError
  | unfound (hready : h.IsReady c) (e : StartError) (himage : h.imageOf p c = .error e) :
      Prevented p h c (.numbered e.number)

/-- A driver that has been asked to shut down does so unless the process is there first. -/
def Heeds (d : Driver) (newest : Nat) (ending : Ending) (signal : ShutdownSignal) : Prop :=
  d.shutdown = some signal ∧ (ending = .cutOff ∨ d.askedAt ≠ newest)

/-- The ways in which an attempt may go. -/
inductive Attempted (p : Shell.Process) (h : Host) (c : StageCommand) : Attempt Host → Prop where
  | notStarted (error : SystemError) (hwhy : Prevented p h c error) :
      Attempted p h c ⟨.notStarted error, [], h⟩
  | signalled (hready : h.IsReady c) (image : Image) (himage : h.imageOf p c = .ok image)
      (d : Driver) (newest : Nat) (ending : Ending) (signal : ShutdownSignal)
      (hheeds : Heeds d newest ending signal) (written : Octets) (after : Host)
      (hkept : Kept h after) (hrest : AtRest after) :
      Attempted p h c ⟨.signalled (h.lastPid + 1) signal, written, after⟩
  | ended (hready : h.IsReady c) (image : Image) (himage : h.imageOf p c = .ok image)
      (d : Driver) (newest : Nat) (ending : Ending)
      (hheeds : ∀ signal, ¬Heeds d newest ending signal) (written : Octets) (after : Host)
      (hkept : Kept h after) (hrest : AtRest after) :
      Attempted p h c ⟨.ended (h.lastPid + 1) ending.waitStatus, written, after⟩

theorem happening_cases (d : Driver) (pid newest : Nat) (ending : Ending) :
    (∃ signal, Heeds d newest ending signal ∧
      happening d pid newest ending = .signalled pid signal) ∨
    (∀ signal, ¬Heeds d newest ending signal) ∧
      happening d pid newest ending = .ended pid ending.waitStatus := by
  rw [happening]
  cases hshutdown : d.shutdown with
  | none =>
    refine Or.inr ⟨fun signal hheeds => ?_, rfl⟩
    exact absurd (hshutdown.symm.trans hheeds.1) (by simp)
  | some signal =>
    by_cases hlate : ending = .cutOff ∨ d.askedAt ≠ newest
    · exact Or.inl ⟨signal, ⟨hshutdown, hlate⟩, if_pos (by simpa using hlate)⟩
    · exact Or.inr ⟨fun signal hheeds => hlate hheeds.2, if_neg (by simpa using hlate)⟩

/-- A process that the driver has followed to its end gives the stage its status. -/
theorem status_happening {d : Driver} {newest : Nat} {ending : Ending} (hreal : ending.IsReal)
    (hheeds : ∀ signal, ¬Heeds d newest ending signal) (pid : Nat) :
    (happening d pid newest ending).status = ending.status := by
  rcases happening_cases d pid newest ending with ⟨signal, hsignal, -⟩ | ⟨-, heq⟩
  · exact absurd hsignal (hheeds signal)
  · rw [heq, Happening.status, Ending.exitStatus_waitStatus hreal]

theorem Attempted.of_image {p : Shell.Process} {h after : Host} {c : StageCommand} {image : Image}
    (hready : h.IsReady c) (himage : h.imageOf p c = .ok image) (d : Driver) (newest : Nat)
    (ending : Ending) (written : Octets) (hkept : Kept h after) (hrest : AtRest after) :
    Attempted p h c ⟨happening d (h.lastPid + 1) newest ending, written, after⟩ := by
  rcases happening_cases d (h.lastPid + 1) newest ending with ⟨signal, hheeds, heq⟩ | ⟨hheeds, heq⟩
  · rw [heq]
    exact .signalled hready image himage d newest ending signal hheeds written after hkept hrest
  · rw [heq]
    exact .ended hready image himage d newest ending hheeds written after hkept hrest

variable (driver : Shell.Process → Image → Host → Ending × Host) (p : Shell.Process) (h : Host)
  (c : StageCommand)

theorem execute_sent (p' : Shell.Process) (image : Image) :
    ∀ signal ∈ (execute driver p' image h).2.sent, signal.1 ∈ h.waiting := by
  intro signal hsignal
  have hfilter := (List.mem_filter.mp hsignal).2
  simpa using hfilter

theorem attempt_cases : Attempted p h c (attempt driver p h c) := by
  rw [attempt]
  cases hended : h.driver.endedBy with
  | some signal => exact .notStarted _ (.lost signal hended)
  | none =>
    cases hnul : hasNul c with
    | true => exact .notStarted _ (.nul hended hnul)
    | false =>
      have hready : h.IsReady c := ⟨hended, hnul⟩
      cases himage : h.imageOf p c with
      | error e =>
        have hfind : h.find _ _ _ = _ := himage
        simp only [hfind]
        exact .notStarted _ (.unfound hready e himage)
      | ok image =>
        have hfind : h.find _ _ _ = _ := himage
        simp only [hfind]
        exact .of_image hready himage _ _ _ _ ⟨rfl, rfl, rfl, rfl⟩
          ⟨rfl, execute_sent driver _ _ _⟩

variable {driver p h c}

theorem Prevented.not_started {error : SystemError} (hwhy : Prevented p h c error) :
    ¬(h.IsReady c ∧ ∃ image, h.imageOf p c = .ok image) := by
  rintro ⟨hready, image, himage⟩
  cases hwhy with
  | lost signal hended => exact absurd (hended.symm.trans hready.alive) (by simp)
  | nul _ hnul => exact absurd (hnul.symm.trans hready.noNul) (by simp)
  | unfound _ e hunfound => exact absurd (hunfound.symm.trans himage) (by simp)

theorem Prevented.isNotFound_iff {error : SystemError} (hwhy : Prevented p h c error) :
    error.isNotFound = true ↔ h.IsReady c ∧ h.imageOf p c = .error .notFound := by
  cases hwhy with
  | lost signal hended =>
    refine iff_of_false (by decide) fun hmissing => ?_
    exact absurd (hended.symm.trans hmissing.1.alive) (by simp)
  | nul _ hnul =>
    refine iff_of_false (by decide) fun hmissing => ?_
    exact absurd (hnul.symm.trans hmissing.1.noNul) (by simp)
  | unfound hready e himage =>
    rw [himage, and_iff_right hready, Except.error.injEq]
    cases e with
    | mk number => simp [SystemError.isNotFound, StartError.notFound]

namespace Attempted

variable {a : Attempt Host} (ha : Attempted p h c a)
include ha

theorem kept : Kept h a.environment := by
  cases ha with
  | notStarted => exact .refl h
  | signalled _ _ _ _ _ _ _ _ _ _ hkept => exact hkept
  | ended _ _ _ _ _ _ _ _ _ hkept => exact hkept

theorem atRest (hrest : AtRest h) : AtRest a.environment := by
  cases ha with
  | notStarted => exact hrest
  | signalled _ _ _ _ _ _ _ _ _ _ _ hafter => exact hafter
  | ended _ _ _ _ _ _ _ _ _ _ hafter => exact hafter

/-- A program is started as soon as there is one to start. -/
theorem notStarted_iff :
    (∃ error, a.happening = .notStarted error) ↔
      ¬(h.IsReady c ∧ ∃ image, h.imageOf p c = .ok image) := by
  cases ha with
  | notStarted error hwhy => exact iff_of_true ⟨error, rfl⟩ hwhy.not_started
  | signalled hready image himage =>
    exact iff_of_false (by simp) (not_not_intro ⟨hready, image, himage⟩)
  | ended hready image himage =>
    exact iff_of_false (by simp) (not_not_intro ⟨hready, image, himage⟩)

theorem unchanged {error : SystemError} (hnot : a.happening = .notStarted error) :
    a.written = [] ∧ a.environment = h := by
  cases ha with
  | notStarted => exact ⟨rfl, rfl⟩
  | signalled => cases hnot
  | ended => cases hnot

/-- A command is said to be missing if its program is nowhere, and for no other reason. -/
theorem missingCommand_iff :
    a.happening.outcome c = .error (.missingCommand c.stage c.programName) ↔
      h.IsReady c ∧ h.imageOf p c = .error .notFound := by
  cases ha with
  | notStarted error hwhy =>
    rw [← hwhy.isNotFound_iff]
    cases hmissing : error.isNotFound <;> simp [Happening.outcome, hmissing]
  | signalled hready image himage =>
    exact iff_of_false (by simp [Happening.outcome]) (by simp [himage])
  | ended hready image himage =>
    exact iff_of_false (by simp [Happening.outcome]) (by simp [himage])

theorem ne_system (error : SystemError) : a.happening.outcome c ≠ .error (.system error) := by
  cases ha with
  | notStarted e hwhy => cases hmissing : e.isNotFound <;> simp [Happening.outcome, hmissing]
  | signalled => simp [Happening.outcome]
  | ended => simp [Happening.outcome]

end Attempted

end Host

namespace Pipeline

open Host

section

variable (config : Config) (sink : Sink) (clock : Clock)
  (driver : Shell.Process → Image → Host → Ending × Host) (p : Shell.Process)

def onHost : Pipeline Host := ⟨config, sink, processRunner (attempt driver p), clock⟩

variable (w : Workload) (id : RunId) (h : Host) (ticks : Nat)

/-- The driver of a host has no errors of its own. -/
theorem run_onHost_ne_system (error : SystemError) :
    ((onHost config sink clock driver p).run w id h ticks).run.failure ≠ some (.system error) := by
  rw [(run_spec _ w id h ticks).1, failure_closed]
  intro hstop
  obtain ⟨v, hv, hfailure⟩ := List.exists_of_findSome?_eq_some hstop
  obtain ⟨s, hanswer⟩ := exists_answer_of_mem_visits _ _ hv
  have houtcome : v.outcome = (attempt driver p s v.command).happening.outcome v.command := by
    rw [Visit.outcome, hanswer]
    rfl
  have hne := (attempt_cases driver p s v.command).ne_system error
  rw [← houtcome] at hne
  rw [Visit.failure] at hfailure
  cases houtcome' : v.outcome with
  | error failure =>
    rw [houtcome', failureOf] at hfailure
    exact hne (houtcome'.trans (congrArg Except.error (Option.some.inj hfailure)))
  | ok exit =>
    rw [houtcome', failureOf] at hfailure
    split at hfailure <;> simp at hfailure

/-- A driver that a signal has ended starts nothing more. -/
theorem run_onHost_of_endedBy {signal : Nat} (hended : h.driver.endedBy = some signal) :
    let g := (onHost config sink clock driver p).run w id h ticks
    g.runner = h ∧ g.run.failure = some (.spawn .instrumentedBuild
      (config.commandFor w .instrumentedBuild).programName lostDriver) := by
  intro g
  let command := config.commandFor w .instrumentedBuild
  have hattempt : attempt driver p h command = ⟨.notStarted lostDriver, [], h⟩ := by
    rw [attempt, hended]
    rfl
  have hanswer : ((onHost config sink clock driver p).visit w .instrumentedBuild h
      (ticks + 2)).answer =
        ⟨.error (.spawn .instrumentedBuild command.programName lostDriver), [], h⟩ := by
    change processRunner (attempt driver p) h command = _
    rw [processRunner, hattempt]
    rfl
  have hfailure :=
    (onHost config sink clock driver p).failure_visit w .instrumentedBuild h (ticks + 2)
  rw [Visit.outcome, hanswer, failureOf] at hfailure
  have hvisits : (onHost config sink clock driver p).allVisits w h ticks = _ :=
    visits_of_failure _ _ hfailure
  refine ⟨?_, ?_⟩
  · rw [show g.runner = _ from runner_run _ w id h ticks, hvisits, stateAfter, List.foldl_cons,
      hanswer, List.foldl_nil]
  · rw [show g.run = _ from (run_spec _ w id h ticks).1, failure_closed, hvisits, stop,
      List.findSome?_singleton, hfailure]

end

end Pipeline

namespace Program

open Host

variable {t : Target} {driver : Shell.Process → Image → Host → Ending × Host} {p : Shell.Process}
  {words : List Octets} {h : Host} {clock : Clock} {id : RunId} {left : Left Host}

theorem Invoked.kept (hleft : Invoked t (system driver p) words h clock id left) :
    Kept h left.environment :=
  hleft.environment_of_step (motive := Kept h)
    (fun s command hs => hs.trans (attempt_cases driver p s command).kept) (.refl h)

theorem Invoked.atRest (hleft : Invoked t (system driver p) words h clock id left)
    (hrest : AtRest h) : AtRest left.environment :=
  hleft.environment_of_step (motive := AtRest)
    (fun s command hs => (attempt_cases driver p s command).atRest hs) hrest

theorem leaveDriver_enterDriver (h : Host) (pid : Nat) (words : List Raw) :
    (h.enterDriver pid words).leaveDriver = h := rfl

/-- A stage that starts the program with nothing to run gets what it writes, and no more. -/
theorem inside_of_idle {image : Image}
    (hidle : ∀ a, Arguments.parse (image.args.map Raw.toOctets) = .ok a → a.dryRun = true)
    (levels : Nat) :
    ∃ status printed errors, inside t clock id (levels + 1) p image h =
      (.exited status,
        Tools.writeTo (Tools.writeTo h p.descriptors 1 printed) p.descriptors 2 errors) := by
  rw [inside]
  have hcases := runWords_cases t (system (inside t clock id levels) p)
    (image.args.map Raw.toOctets) (h.enterDriver p.pid (image.name :: image.args)) clock id
  have henvironment := hcases.environment_eq hidle
  simp only [henvironment, leaveDriver_enterDriver]
  split
  next octet hfinish => exact ⟨_, _, _, rfl⟩
  next signal hfinish =>
    obtain ⟨⟨a, hparse, hlive⟩, -⟩ := hcases.finish_eq_signal_iff.mp hfinish
    exact absurd (hidle a hparse) (by simp [hlive])

end Program

end ProfiledBuild
