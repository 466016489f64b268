import ProfiledBuild.Json.Decode
import ProfiledBuild.Stage.Command
import ProfiledBuild.Workload

/-! The settings of a profile-guided build: which programs run and with which arguments. Every
setting has a default, so a stored configuration may leave any of them out. -/

namespace ProfiledBuild

/-- What the program is built for: the triple, which may be unknown, and the ending of program
names. -/
structure Target where
  triple : String
  suffix : String
  deriving DecidableEq, Repr

def Target.linux : Target := ⟨"x86_64-unknown-linux-gnu", ""⟩

structure Config where
  buildTool : Path
  instrumentArgs : List String
  optimizeArgs : List String
  targetBinary : Path
  onlyLoadFlag : String
  deriving DecidableEq, Repr

namespace Config

def onlyLoad : String := "--only-load"

def profileDirectory : String := "target/pgo-profiles"

def binaryName : String := "aprs"

/-- Where the instrumented build leaves the binary. -/
def defaultTargetBinary (t : Target := .linux) : Path :=
  let root := Path.ofString "target"
  let directory := if t.triple = "" then root else root.push (Path.ofString t.triple)
  (directory.push (Path.ofString "release")).push (Path.ofString (binaryName ++ t.suffix))

def default (t : Target := .linux) : Config where
  buildTool := Path.ofString "cargo"
  instrumentArgs := ["pgo", "build"]
  optimizeArgs := ["pgo", "optimize"]
  targetBinary := defaultTargetBinary t
  onlyLoadFlag := onlyLoad

def withBuildTool (c : Config) (program : Path) : Config := { c with buildTool := program }

def withTargetBinary (c : Config) (program : Path) : Config := { c with targetBinary := program }

/-- The command of each stage. The workload goes to the profiling run alone. -/
def commandFor (c : Config) (w : Workload) : Stage → StageCommand
  | .instrumentedBuild =>
    (StageCommand.ofProgram .instrumentedBuild c.buildTool).addArgs
      (c.instrumentArgs.map Utf8.encode)
  | .profilingRun =>
    ((StageCommand.ofProgram .profilingRun c.targetBinary).arg (Utf8.encode c.onlyLoadFlag)).arg
      w.path.octets
  | .optimizedBuild =>
    (StageCommand.ofProgram .optimizedBuild c.buildTool).addArgs
      (c.optimizeArgs.map Utf8.encode)

def plan (c : Config) (w : Workload) : List StageCommand := Stage.all.map (c.commandFor w)

def same (c d : Config) : Bool :=
  c.buildTool.same d.buildTool && c.instrumentArgs = d.instrumentArgs &&
    c.optimizeArgs = d.optimizeArgs && c.targetBinary.same d.targetBinary &&
    c.onlyLoadFlag = d.onlyLoadFlag

/-- Only what is text can be stored. -/
inductive StoreError where
  | pathNotText
  deriving DecidableEq, Repr

def StoreError.message : StoreError → String
  | .pathNotText => "path contains invalid UTF-8 characters"

def pathToJson (p : Path) : Except StoreError Json :=
  match Utf8.decode? p.octets with
  | some s => .ok (.string s)
  | none => .error .pathNotText

def textsToJson (ss : List String) : Json := .array (ss.map .string)

def toJson (c : Config) : Except StoreError Json := do
  let buildTool ← pathToJson c.buildTool
  let targetBinary ← pathToJson c.targetBinary
  return Json.ofFields [
    ("build_tool", buildTool),
    ("instrument_args", textsToJson c.instrumentArgs),
    ("optimize_args", textsToJson c.optimizeArgs),
    ("target_binary", targetBinary),
    ("only_load_flag", .string c.onlyLoadFlag)]

open Json Json.Decode

structure Given where
  buildTool : Option Path
  instrumentArgs : Option (List String)
  optimizeArgs : Option (List String)
  targetBinary : Option Path
  onlyLoadFlag : Option String
  deriving DecidableEq, Repr

namespace Given

def nothing : Given := ⟨none, none, none, none, none⟩

/-- The defaults stand in for what is not given. -/
def complete (g : Given) (t : Target) : Config where
  buildTool := g.buildTool.getD (default t).buildTool
  instrumentArgs := g.instrumentArgs.getD (default t).instrumentArgs
  optimizeArgs := g.optimizeArgs.getD (default t).optimizeArgs
  targetBinary := g.targetBinary.getD (default t).targetBinary
  onlyLoadFlag := g.onlyLoadFlag.getD (default t).onlyLoadFlag

end Given

def decodePath (depth : Nat) (d : Document) : Decoded Path := do
  return Path.ofString (← string "path string" depth d)

def decodeTexts : Decoder (List String) := list (string "a string")

def decodeText : Decoder String := string "a string"

def fields (depth : Nat) : Keyed Given where
  put g
    | "build_tool" => some fun d => do
      return { g with buildTool := some (← once "build_tool" g.buildTool (decodePath depth) d) }
    | "instrument_args" => some fun d => do
      return { g with
        instrumentArgs := some (← once "instrument_args" g.instrumentArgs (decodeTexts depth) d) }
    | "optimize_args" => some fun d => do
      return { g with
        optimizeArgs := some (← once "optimize_args" g.optimizeArgs (decodeTexts depth) d) }
    | "target_binary" => some fun d => do
      return { g with
        targetBinary := some (← once "target_binary" g.targetBinary (decodePath depth) d) }
    | "only_load_flag" => some fun d => do
      return { g with
        onlyLoadFlag := some (← once "only_load_flag" g.onlyLoadFlag (decodeText depth) d) }
    | _ => none

def decode (t : Target := .linux) : Decoder Config
  | depth, .object es stop => do
    let depth ← sound (Document.descend depth)
    return (← entries (fields depth) .nothing es stop).complete t
  | depth, .array ds stop => do
    let depth ← sound (Document.descend depth)
    let (buildTool, ds) ← elementOr (default t).buildTool (decodePath depth) ds stop
    let (instrumentArgs, ds) ← elementOr (default t).instrumentArgs (decodeTexts depth) ds stop
    let (optimizeArgs, ds) ← elementOr (default t).optimizeArgs (decodeTexts depth) ds stop
    let (targetBinary, ds) ← elementOr (default t).targetBinary (decodePath depth) ds stop
    let (onlyLoadFlag, ds) ← elementOr (default t).onlyLoadFlag (decodeText depth) ds stop
    close ds stop
    return ⟨buildTool, instrumentArgs, optimizeArgs, targetBinary, onlyLoadFlag⟩
  | _, d => unexpected "struct PgoConfig" d

def quotedTexts (ss : List String) : String :=
  "[" ++ ", ".intercalate (ss.map Quoted.text) ++ "]"

def describe (c : Config) : String :=
  "PgoConfig \x7b build_tool: " ++ Quoted.octets c.buildTool.octets ++
    ", instrument_args: " ++ quotedTexts c.instrumentArgs ++
    ", optimize_args: " ++ quotedTexts c.optimizeArgs ++
    ", target_binary: " ++ Quoted.octets c.targetBinary.octets ++
    ", only_load_flag: " ++ Quoted.text c.onlyLoadFlag ++ " \x7d"

end Config

end ProfiledBuild
