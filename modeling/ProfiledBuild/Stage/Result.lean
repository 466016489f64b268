import ProfiledBuild.Failure
import ProfiledBuild.Stage.Command
import ProfiledBuild.Time.Reader

/-! The record of one stage: what was run, how it ended and when. -/

namespace ProfiledBuild

structure StageResult where
  stage : Stage
  command : String
  status : StageStatus
  exit : Option Exit
  error : Option String
  startedAt : Timestamp
  endedAt : Timestamp
  deriving DecidableEq

namespace StageResult

def statusOf : Outcome → StageStatus
  | .ok exit => if exit.succeeded then .ok else .fail
  | .error failure => if failure.isInterrupted then .cancel else .fail

def errorOf : Outcome → Option String
  | .ok exit => if exit.succeeded then none else some ("exited with " ++ exit.text)
  | .error failure => some failure.message

def ofOutcome (command : StageCommand) (startedAt endedAt : Timestamp) (outcome : Outcome) :
    StageResult where
  stage := command.stage
  command := command.display
  status := statusOf outcome
  exit := outcome.toOption
  error := errorOf outcome
  startedAt := startedAt
  endedAt := endedAt

def isSuccess (r : StageResult) : Bool := r.status.isSuccess

def durationMs (r : StageResult) : Float := Float.ofInt (r.endedAt.millisecondsSince r.startedAt)

def toJson (r : StageResult) : Json :=
  Json.ofFields <|
    [("stage", .string r.stage.name), ("command", .string r.command),
      ("status", .string r.status.name)] ++
    (r.exit.map fun e => ("exit", e.toJson)).toList ++
    (r.error.map fun e => ("error", .string e)).toList ++
    [("started_at", .string r.startedAt.text), ("ended_at", .string r.endedAt.text)]

open Json Json.Decode

structure Given where
  stage : Option Stage
  command : Option String
  status : Option StageStatus
  exit : Option (Option Exit)
  error : Option (Option String)
  startedAt : Option Timestamp
  endedAt : Option Timestamp
  deriving DecidableEq

namespace Given

def nothing : Given := ⟨none, none, none, none, none, none, none⟩

/-- An exit and an error may be missing, all else must be there. -/
def complete (g : Given) : Decoded StageResult := do
  return {
    stage := ← required "stage" g.stage
    command := ← required "command" g.command
    status := ← required "status" g.status
    exit := g.exit.join
    error := g.error.join
    startedAt := ← required "started_at" g.startedAt
    endedAt := ← required "ended_at" g.endedAt }

end Given

def decodeStage : Decoder Stage := variant Stage.named

def decodeStatus : Decoder StageStatus := variant StageStatus.named

def decodeText : Decoder String := string "a string"

def decodeTime (depth : Nat) (d : Document) : Decoded Timestamp := do
  match Timestamp.parse (← string "an RFC 3339 formatted date and time string" depth d) with
  | .ok t => return t
  | .error f => mismatch (.unreadable f.message)

def fields (depth : Nat) : Keyed Given where
  put g
    | "stage" => some fun d => do
      return { g with stage := some (← once "stage" g.stage (decodeStage depth) d) }
    | "command" => some fun d => do
      return { g with command := some (← once "command" g.command (decodeText depth) d) }
    | "status" => some fun d => do
      return { g with status := some (← once "status" g.status (decodeStatus depth) d) }
    | "exit" => some fun d => do
      return { g with exit := some (← once "exit" g.exit (optional Exit.decode depth) d) }
    | "error" => some fun d => do
      return { g with error := some (← once "error" g.error (optional decodeText depth) d) }
    | "started_at" => some fun d => do
      return { g with startedAt := some (← once "started_at" g.startedAt (decodeTime depth) d) }
    | "ended_at" => some fun d => do
      return { g with endedAt := some (← once "ended_at" g.endedAt (decodeTime depth) d) }
    | _ => none

def expected : String := "struct StageResult"

def expectedElements : String := expected ++ " with 7 elements"

def decode : Decoder StageResult
  | depth, .object es stop => do
    let depth ← sound (Document.descend depth)
    (← entries (fields depth) .nothing es stop).complete
  | depth, .array ds stop => do
    let depth ← sound (Document.descend depth)
    let (stage, ds) ← element expectedElements 0 (decodeStage depth) ds stop
    let (command, ds) ← element expectedElements 1 (decodeText depth) ds stop
    let (status, ds) ← element expectedElements 2 (decodeStatus depth) ds stop
    let (exit, ds) ← element expectedElements 3 (optional Exit.decode depth) ds stop
    let (error, ds) ← element expectedElements 4 (optional decodeText depth) ds stop
    let (startedAt, ds) ← element expectedElements 5 (decodeTime depth) ds stop
    let (endedAt, ds) ← element expectedElements 6 (decodeTime depth) ds stop
    close ds stop
    return ⟨stage, command, status, exit, error, startedAt, endedAt⟩
  | _, d => unexpected expected d

end StageResult

end ProfiledBuild
