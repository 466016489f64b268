import ProfiledBuild.Stage.Basic
import ProfiledBuild.Text.Path

/-! The command of a stage: a program and its arguments, kept as raw octets. -/

namespace ProfiledBuild

structure StageCommand where
  stage : Stage
  program : Path
  args : List Octets
  deriving DecidableEq, Repr

namespace StageCommand

def ofProgram (stage : Stage) (program : Path) : StageCommand := ⟨stage, program, []⟩

def arg (c : StageCommand) (a : Octets) : StageCommand := { c with args := c.args ++ [a] }

def addArgs (c : StageCommand) (as : List Octets) : StageCommand :=
  { c with args := c.args ++ as }

def programName (c : StageCommand) : String := c.program.display

/-- The command as one line of text. Each piece is read on its own, so a piece that ends in the
middle of a character does not touch the next one. -/
def display (c : StageCommand) : String :=
  String.join (c.programName :: c.args.map fun a => " " ++ Utf8.lossy a)

def same (c d : StageCommand) : Bool :=
  c.stage = d.stage && c.program.same d.program && c.args = d.args

end StageCommand

end ProfiledBuild
