import ProfiledBuild.Config
import ProfiledBuild.Proofs.Text.Paths
import ProfiledBuild.Proofs.Text.Utf8

/-! The plan of a build: its three commands. They tell the configuration as far as configurations are
told apart, and the workload octet by octet, also where two workloads are the same path or print
alike. -/

namespace ProfiledBuild

open Utf8

namespace Utf8

/-- The same characters, and octets that spell none in the same places. -/
def Blurred (s t : Octets) : Prop := (pieces s).map Piece.char? = (pieces t).map Piece.char?

theorem Blurred.lossy_eq {s t : Octets} (h : Blurred s t) : lossy s = lossy t := by
  have hlossy (s : Octets) :
      lossy s = String.ofList (((pieces s).map Piece.char?).map (·.getD '\uFFFD')) := by
    rw [lossy, List.map_map]
    rfl
  rw [hlossy, hlossy, h]

end Utf8

theorem StageCommand.same_addArgs_iff (stage : Stage) (p q : Path) (ss ts : List String) :
    ((ofProgram stage p).addArgs (ss.map encode)).same
        ((ofProgram stage q).addArgs (ts.map encode)) = true ↔ p.same q = true ∧ ss = ts := by
  have hargs : ss.map encode = ts.map encode ↔ ss = ts :=
    List.map_inj_right fun _ _ h => encode_injective h
  simp only [same, ofProgram, addArgs, List.nil_append, Bool.and_eq_true, decide_eq_true_eq,
    true_and, hargs]

namespace Config

variable {c d : Config} {v w : Workload}

theorem profiling_same_iff :
    (c.commandFor v .profilingRun).same (d.commandFor w .profilingRun) = true ↔
      c.targetBinary.same d.targetBinary = true ∧ c.onlyLoadFlag = d.onlyLoadFlag ∧
        v.path.octets = w.path.octets := by
  simp only [commandFor, StageCommand.same, StageCommand.ofProgram, StageCommand.arg,
    List.nil_append, List.singleton_append, Bool.and_eq_true, decide_eq_true_eq, true_and,
    List.cons.injEq, and_true, encode_injective.eq_iff]

/-- With one configuration, the profiling run tells the workloads apart by their octets. -/
theorem profiling_same_iff_octets :
    (c.commandFor v .profilingRun).same (c.commandFor w .profilingRun) = true ↔
      v.path.octets = w.path.octets := by
  rw [profiling_same_iff, Path.same_refl, and_iff_right rfl, and_iff_right rfl]

theorem same_iff :
    c.same d = true ↔ c.buildTool.same d.buildTool = true ∧ c.instrumentArgs = d.instrumentArgs ∧
      c.optimizeArgs = d.optimizeArgs ∧ c.targetBinary.same d.targetBinary = true ∧
        c.onlyLoadFlag = d.onlyLoadFlag := by
  simp only [same, Bool.and_eq_true, decide_eq_true_eq, and_assoc]

theorem forall_same_iff :
    (∀ stage, (c.commandFor v stage).same (d.commandFor w stage) = true) ↔
      c.same d = true ∧ v.path.octets = w.path.octets := by
  have hbuild : (c.commandFor v .instrumentedBuild).same (d.commandFor w .instrumentedBuild) =
      true ↔ c.buildTool.same d.buildTool = true ∧ c.instrumentArgs = d.instrumentArgs :=
    StageCommand.same_addArgs_iff ..
  have hoptimize : (c.commandFor v .optimizedBuild).same (d.commandFor w .optimizedBuild) =
      true ↔ c.buildTool.same d.buildTool = true ∧ c.optimizeArgs = d.optimizeArgs :=
    StageCommand.same_addArgs_iff ..
  rw [same_iff]
  constructor
  · intro h
    obtain ⟨htool, hinstrument⟩ := hbuild.mp (h .instrumentedBuild)
    obtain ⟨hbinary, hflag, hworkload⟩ := profiling_same_iff.mp (h .profilingRun)
    obtain ⟨-, hargs⟩ := hoptimize.mp (h .optimizedBuild)
    exact ⟨⟨htool, hinstrument, hargs, hbinary, hflag⟩, hworkload⟩
  · rintro ⟨⟨htool, hinstrument, hargs, hbinary, hflag⟩, hworkload⟩ stage
    cases stage with
    | instrumentedBuild => exact hbuild.mpr ⟨htool, hinstrument⟩
    | profilingRun => exact profiling_same_iff.mpr ⟨hbinary, hflag, hworkload⟩
    | optimizedBuild => exact hoptimize.mpr ⟨htool, hargs⟩

theorem build_independent {stage : Stage} (h : stage ≠ .profilingRun) :
    c.commandFor v stage = c.commandFor w stage := by
  cases stage with
  | instrumentedBuild => rfl
  | profilingRun => exact absurd rfl h
  | optimizedBuild => rfl

theorem display_profiling (h : lossy v.path.octets = lossy w.path.octets) :
    (c.commandFor v .profilingRun).display = (c.commandFor w .profilingRun).display := by
  simp only [commandFor, StageCommand.display, StageCommand.programName, StageCommand.ofProgram,
    StageCommand.arg, List.nil_append, List.singleton_append, List.map_cons, List.map_nil, h]

/-- Commands are the same for all stages exactly when the configurations are the same and the
workloads have the same octets. So the profiling run keeps apart what is one path in two spellings,
and what differs only in octets that spell no character and therefore looks alike. -/
theorem plan_tells_apart (c d : Config) (v w : Workload) :
    ((∀ stage, (c.commandFor v stage).same (d.commandFor w stage) = true) ↔
      c.same d = true ∧ v.path.octets = w.path.octets) ∧
    ((c.commandFor v .profilingRun).same (c.commandFor w .profilingRun) = true ↔
      v.path.octets = w.path.octets) ∧
    (∀ stage, stage ≠ .profilingRun → c.commandFor v stage = c.commandFor w stage) ∧
    (Path.Respelled v.path.octets w.path.octets → v.same w = true ∧
      (c.commandFor v .profilingRun).same (c.commandFor w .profilingRun) = false) ∧
    (Blurred v.path.octets w.path.octets → v.path.octets ≠ w.path.octets →
      v.display = w.display ∧
      (c.commandFor v .profilingRun).display = (c.commandFor w .profilingRun).display ∧
      (c.commandFor v .profilingRun).same (c.commandFor w .profilingRun) = false) := by
  have hdiffer (h : v.path.octets ≠ w.path.octets) :
      (c.commandFor v .profilingRun).same (c.commandFor w .profilingRun) = false :=
    Bool.eq_false_iff.mpr fun hsame => h (profiling_same_iff_octets.mp hsame)
  refine ⟨forall_same_iff, profiling_same_iff_octets, fun stage h => build_independent h,
    fun h => ⟨h.same, hdiffer fun heq => ?_⟩, fun h hne => ?_⟩
  · have hlt := h.length_lt
    rw [heq] at hlt
    exact Nat.lt_irrefl _ hlt
  · exact ⟨h.lossy_eq, display_profiling h.lossy_eq, hdiffer hne⟩

def workloadNamed (octets : Octets) (h : octets ≠ []) : Workload := ⟨⟨octets⟩, h⟩

/-- `a//b` is the path `a/b`, and names that end in `FF` and in `FE` look alike. -/
theorem doubledSlash_told_apart :
    let doubled := workloadNamed (encode "a//b") (by decide)
    let single := workloadNamed (encode "a/b") (by decide)
    let first := workloadNamed [0x61, 0xFF] (by decide)
    let second := workloadNamed [0x61, 0xFE] (by decide)
    (doubled.same single = true ∧
      (default.commandFor doubled .profilingRun).same (default.commandFor single .profilingRun) =
        false) ∧
    first.display = second.display ∧
      (default.commandFor first .profilingRun).same (default.commandFor second .profilingRun) =
        false := by
  intro doubled single first second
  obtain ⟨-, -, -, hspelled, -⟩ := plan_tells_apart default default doubled single
  obtain ⟨-, -, -, -, hblurred⟩ := plan_tells_apart default default first second
  have hsame : Blurred first.path.octets second.path.octets := by
    show (pieces [0x61, 0xFF]).map Piece.char? = (pieces [0x61, 0xFE]).map Piece.char?
    decide +kernel
  obtain ⟨hdisplay, -, hdiffer⟩ := hblurred hsame (by decide)
  exact ⟨hspelled (.doubled [0x61] [0x62]), hdisplay, hdiffer⟩

end Config

end ProfiledBuild
