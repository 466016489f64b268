import ProfiledBuild.Proofs.Text.Cuts
import ProfiledBuild.Stage.Command

/-! Commands as text. A command is shown piece by piece, and what is shown is the text of all its
octets in one line: a piece that ends in the middle of a character takes nothing from the next one. -/

namespace ProfiledBuild.StageCommand

open Utf8

/-- One call that adds to a command. -/
inductive Addition where
  | one (arg : Octets)
  | several (args : List Octets)

def Addition.args : Addition → List Octets
  | .one a => [a]
  | .several as => as

def add (c : StageCommand) : Addition → StageCommand
  | .one a => c.arg a
  | .several as => c.addArgs as

def built (stage : Stage) (program : Path) (additions : List Addition) : StageCommand :=
  additions.foldl add (ofProgram stage program)

/-- The program and the arguments that are given, in order. -/
def parts (program : Path) (additions : List Addition) : List Octets :=
  program.octets :: additions.flatMap Addition.args

theorem add_eq (c : StageCommand) (addition : Addition) :
    c.add addition = { c with args := c.args ++ addition.args } := by
  cases addition <;> rfl

theorem foldl_add (additions : List Addition) (c : StageCommand) :
    additions.foldl add c = { c with args := c.args ++ additions.flatMap Addition.args } := by
  induction additions generalizing c with
  | nil => rw [List.foldl_nil, List.flatMap_nil, List.append_nil]
  | cons addition additions ih =>
    rw [List.foldl_cons, ih, add_eq, List.flatMap_cons, List.append_assoc]

theorem built_eq (stage : Stage) (program : Path) (additions : List Addition) :
    built stage program additions = ⟨stage, program, additions.flatMap Addition.args⟩ :=
  foldl_add additions _

theorem display_eq_lossy (c : StageCommand) :
    c.display = lossy (joined (c.program.octets :: c.args)) :=
  (lossy_joined c.program.octets c.args).symm

/-- A line that is cut between two parts is read in two halves. -/
theorem lossy_joined_append {before after : List Octets} (hbefore : before ≠ [])
    (hafter : after ≠ []) :
    lossy (joined (before ++ after)) = lossy (joined before) ++ " " ++ lossy (joined after) := by
  rw [joined_append hbefore hafter, lossy_append _ (opens_blank _), lossy_blank,
    String.append_assoc]

theorem programName_prefix (c : StageCommand) : c.programName.toList <+: c.display.toList := by
  rw [display, String.join_cons, String.toList_append]
  exact List.prefix_append _ _

/-- However a command is put together, its text is that of its parts in one line with a blank between
neighbours. The text is that line octet by octet exactly when every part is text itself, and no part
reaches into another. -/
theorem display_reads_line (stage : Stage) (program : Path) (additions : List Addition) :
    (built stage program additions).display = lossy (joined (parts program additions)) ∧
    (built stage program additions).programName.toList <+:
      (built stage program additions).display.toList ∧
    (encode (built stage program additions).display = joined (parts program additions) ↔
      ∀ part ∈ parts program additions, IsText part) ∧
    ∀ before after : List Octets, before ≠ [] → after ≠ [] →
      parts program additions = before ++ after →
      (built stage program additions).display =
        lossy (joined before) ++ " " ++ lossy (joined after) := by
  have hline : (built stage program additions).display =
      lossy (joined (parts program additions)) := by
    rw [display_eq_lossy, built_eq]
    rfl
  refine ⟨hline, programName_prefix _, ?_, fun before after hbefore hafter hparts => ?_⟩
  · rw [hline, encode_lossy_eq_iff, isText_joined_iff]
  · rw [hline, hparts, lossy_joined_append hbefore hafter]

/-- The first argument is all but the last octet of a character, and the second one starts with that
octet. -/
theorem cutCharacter_display :
    (built .profilingRun (Path.ofString "aprs")
      [.one [0xE2, 0x82], .several [[0xAC, 0x41], []]]).display = "aprs \uFFFD \uFFFDA " ∧
    (built .profilingRun (Path.ofString "aprs")
      [.one [0xE2, 0x82], .several [[0xAC, 0x41], []]]).display =
        lossy (joined [Utf8.encode "aprs", [0xE2, 0x82]]) ++ " " ++
          lossy (joined [[0xAC, 0x41], []]) := by
  obtain ⟨hline, -, -, hcut⟩ := display_reads_line .profilingRun (Path.ofString "aprs")
    [.one [0xE2, 0x82], .several [[0xAC, 0x41], []]]
  exact ⟨hline.trans (by decide +kernel), hcut _ _ (by decide) (by decide) rfl⟩

end ProfiledBuild.StageCommand
