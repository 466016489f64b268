import ProfiledBuild.Proofs.AcceptedLines
import ProfiledBuild.Proofs.DryRun
import ProfiledBuild.Proofs.ProcessStatus

/-! What a line comes to on any system. A line that is refused or only rehearsed leaves the system
as it is. A live run ends with the status of its first stage that has not ended well, unless a
signal ends the program before. -/

namespace ProfiledBuild.Program

open Arguments

section

variable {ε : Type} (t : Target) (s : System ε) (words : List Octets) (e : ε) (clock : Clock)
  (id : RunId)

/-- What the words of a line ask for, if they are accepted. -/
structure Asks (a : Arguments) (w : Workload) : Prop where
  parsed : parse words = .ok a
  workload : Workload.ofPath? a.workload = some w

theorem Asks.unique {words : List Octets} {a a' : Arguments} {w w' : Workload}
    (h : Asks words a w) (h' : Asks words a' w') : a = a' ∧ w = w' := by
  obtain rfl : a = a' := Except.ok.inj (h.parsed.symm.trans h'.parsed)
  exact ⟨rfl, Option.some.inj (h.workload.symm.trans h'.workload)⟩

def liveRun (a : Arguments) (w : Workload) : Progress ε :=
  (pipeline (a.config t) (processRunner s.attempt) clock).run w id e 0

/-- The ways in which an invocation may go. -/
inductive Invoked : Left ε → Prop where
  | refused (error : ArgumentError) (hparse : parse words = .error error) (printed errors : Octets)
      (hone : printed = [] ∨ errors = []) :
      Invoked ⟨.status error.exitCode, printed, errors, e⟩
  | rehearsed (a : Arguments) (w : Workload) (hasks : Asks words a w) (hdry : a.dryRun = true)
      (errors : Octets) :
      Invoked ⟨.status 0, Console.page ((a.config t).lines w), errors, e⟩
  | signalled (a : Arguments) (w : Workload) (hasks : Asks words a w) (hlive : a.dryRun = false)
      (signal : Nat) (hsignal : s.endedBy (liveRun t s e clock id a w).runner = some signal)
      (errors : Octets) :
      Invoked ⟨.signal signal, [], errors, (liveRun t s e clock id a w).runner⟩
  | ended (a : Arguments) (w : Workload) (hasks : Asks words a w) (hlive : a.dryRun = false)
      (halive : s.endedBy (liveRun t s e clock id a w).runner = none) (octet : UInt8)
      (hoctet : octet.toNat = firstStatus (happenings s.attempt e ((a.config t).plan w)))
      (errors : Octets) :
      Invoked ⟨.status octet, [], errors, (liveRun t s e clock id a w).runner⟩

theorem toNat_statusOctet_liveRun (a : Arguments) (w : Workload) :
    (Run.statusOctet (liveRun t s e clock id a w).run.exitCode).toNat =
      firstStatus (happenings s.attempt e ((a.config t).plan w)) := by
  have hcode : (liveRun t s e clock id a w).run.exitCode.toInt = _ :=
    Pipeline.exitCode_processes (a.config t) (.logging .debug) clock s.attempt w id e 0
  have hle := firstStatus_le (happenings s.attempt e ((a.config t).plan w))
  have hoctet :
      ((Run.statusOctet (liveRun t s e clock id a w).run.exitCode).toNat : Int) =
        (liveRun t s e clock id a w).run.exitCode.toInt :=
    Run.toNat_statusOctet_of_le (by omega) (by omega)
  rw [hcode] at hoctet
  exact Int.natCast_inj.mp hoctet

theorem runWorkload_rehearsed {a : Arguments} {w : Workload} (hasks : Asks words a w)
    (hdry : a.dryRun = true) : Invoked t s words e clock id (runWorkload t s a w e clock id) := by
  let g := (pipeline (a.config t) dryRun clock).run w id .clear 0
  have hsound : Console.clear.Sound (2 * Stage.all.length) := fun i _ => rfl
  obtain ⟨-, hcode, hout⟩ :
      g.run.state = .done ∧ g.run.exitCode = 0 ∧ g.runner.out = [] ++ _ :=
    Pipeline.run_printing_sound (a.config t) (.logging .debug) clock w hsound id 0
  rw [runWorkload, if_pos hdry]
  change Invoked t s words e clock id
    ⟨.status (Run.statusOctet g.run.exitCode), g.runner.out, _, e⟩
  rw [hcode, hout]
  exact .rehearsed a w hasks hdry _

theorem runWorkload_live {a : Arguments} {w : Workload} (hasks : Asks words a w)
    (hlive : a.dryRun = false) : Invoked t s words e clock id (runWorkload t s a w e clock id) := by
  rw [runWorkload, if_neg (by simp [hlive])]
  dsimp only
  split
  next signal hsignal => exact .signalled a w hasks hlive signal hsignal _
  next halive =>
    exact .ended a w hasks hlive halive _ (toNat_statusOctet_liveRun t s e clock id a w) _

theorem runWords_cases : Invoked t s words e clock id (runWords t s words e clock id) := by
  rw [runWords]
  cases hparse : parse words with
  | error error =>
    dsimp only
    rw [refuse]
    split
    · exact .refused error hparse _ _ (.inr rfl)
    · exact .refused error hparse _ _ (.inl rfl)
  | ok a =>
    have hne := (granted_of_parse hparse).workload_ne
    have hasks : Asks words a ⟨a.workload, hne⟩ := ⟨hparse, dif_pos hne⟩
    simp only [runArguments, hasks.workload]
    cases hdry : a.dryRun with
    | true => exact runWorkload_rehearsed t s words e clock id hasks hdry
    | false => exact runWorkload_live t s words e clock id hasks hdry

end

namespace Invoked

variable {ε : Type} {t : Target} {s : System ε} {words : List Octets} {e : ε} {clock : Clock}
  {id : RunId} {left : Left ε} (h : Invoked t s words e clock id left)
include h

theorem environment_eq (hidle : ∀ a, parse words = .ok a → a.dryRun = true) :
    left.environment = e := by
  cases h with
  | refused | rehearsed => rfl
  | signalled a w hasks hlive => exact absurd (hidle a hasks.parsed) (by simp [hlive])
  | ended a w hasks hlive => exact absurd (hidle a hasks.parsed) (by simp [hlive])

/-- What every attempt leaves true of a system is true of it after an invocation. -/
theorem environment_of_step {motive : ε → Prop}
    (hstep : ∀ e command, motive e → motive (s.attempt e command).environment) (he : motive e) :
    motive left.environment := by
  have hrun (a : Arguments) (w : Workload) : motive (liveRun t s e clock id a w).runner :=
    Pipeline.runner_run_of_step _ hstep w id he 0
  cases h with
  | refused | rehearsed => exact he
  | signalled a w => exact hrun a w
  | ended a w => exact hrun a w

theorem finish_eq_signal_iff {signal : Nat} :
    left.finish = .signal signal ↔
      (∃ a, parse words = .ok a ∧ a.dryRun = false) ∧
        s.endedBy left.environment = some signal := by
  cases h with
  | refused error hparse => simp [hparse]
  | rehearsed a w hasks hdry => simp [hasks.parsed, hdry]
  | signalled a w hasks hlive number hnumber => simp [hasks.parsed, hlive, hnumber]
  | ended a w hasks hlive halive => simp [halive]

/-- A live run ends well if all its stages do and no signal comes between. -/
theorem finish_eq_zero_iff {a : Arguments} {w : Workload} (hasks : Asks words a w)
    (hlive : a.dryRun = false) :
    left.finish = .status 0 ↔ s.endedBy left.environment = none ∧
      ∀ happening ∈ happenings s.attempt e ((a.config t).plan w), happening.status = 0 := by
  cases h with
  | refused error hparse => exact absurd (hparse.symm.trans hasks.parsed) (by simp)
  | rehearsed a' w' hasks' hdry =>
    obtain ⟨rfl, rfl⟩ := hasks.unique hasks'
    exact absurd hdry (by simp [hlive])
  | signalled a' w' hasks' _ signal hsignal => simp [hsignal]
  | ended a' w' hasks' _ halive octet hoctet =>
    obtain ⟨rfl, rfl⟩ := hasks.unique hasks'
    rw [and_iff_right halive, ← firstStatus_eq_zero_iff, ← hoctet, Finish.status.injEq]
    exact UInt8.toNat_inj.symm

end Invoked

end ProfiledBuild.Program
