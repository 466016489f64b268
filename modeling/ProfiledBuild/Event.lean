import ProfiledBuild.Json.Decode
import ProfiledBuild.Stage.Basic
import ProfiledBuild.Time.Timestamp

/-! Events: what a run reports while it goes on. An event has a type, the time it was made and
free-form data. -/

namespace ProfiledBuild

structure Event where
  type : String
  timestamp : String
  data : Json.Fields

namespace Event

def ofType (type : String) (now : Timestamp) : Event := ⟨type, now.microsecondText, []⟩

def addData (e : Event) (key : String) (value : Json) : Event :=
  { e with data := e.data.insert key value }

def payload (e : Event) : Json := .object e.data

def stageStarted (stage : Stage) (command : String) (now : Timestamp) : Event :=
  ((ofType "stage.started" now).addData "stage" (.string stage.name)).addData
    "command" (.string command)

def stageCompleted (stage : Stage) (durationMs : Float) (now : Timestamp) : Event :=
  ((ofType "stage.completed" now).addData "stage" (.string stage.name)).addData
    "duration_ms" (Json.float durationMs)

def stageFailed (stage : Stage) (error : String) (exitCode : Int32) (now : Timestamp) : Event :=
  (((ofType "stage.failed" now).addData "stage" (.string stage.name)).addData
    "error" (.string error)).addData "exit_code" (Json.int exitCode.toInt)

def pipelineStarted (runId workload : String) (now : Timestamp) : Event :=
  ((ofType "pipeline.started" now).addData "run_id" (.string runId)).addData
    "workload" (.string workload)

def pipelineCompleted (runId : String) (durationMs : Float) (now : Timestamp) : Event :=
  ((ofType "pipeline.completed" now).addData "run_id" (.string runId)).addData
    "duration_ms" (Json.float durationMs)

def pipelineFailed (runId : String) (exitCode : Int32) (now : Timestamp) : Event :=
  ((ofType "pipeline.failed" now).addData "run_id" (.string runId)).addData
    "exit_code" (Json.int exitCode.toInt)

def toJson (e : Event) : Json :=
  Json.ofFields
    [("type", .string e.type), ("timestamp", .string e.timestamp), ("data", e.payload)]

open Json Json.Decode

structure Given where
  type : Option String
  timestamp : Option String
  data : Option Json.Fields

namespace Given

def nothing : Given := ⟨none, none, none⟩

/-- Data may be missing. -/
def complete (g : Given) : Decoded Event := do
  return {
    type := ← required "type" g.type
    timestamp := ← required "timestamp" g.timestamp
    data := g.data.getD [] }

end Given

def decodeText : Decoder String := string "a string"

def fields (depth : Nat) : Keyed Given where
  put g
    | "type" => some fun d => do
      return { g with type := some (← once "type" g.type (decodeText depth) d) }
    | "timestamp" => some fun d => do
      return { g with timestamp := some (← once "timestamp" g.timestamp (decodeText depth) d) }
    | "data" => some fun d => do
      return { g with data := some (← once "data" g.data (Decode.fields depth) d) }
    | _ => none

def expected : String := "struct StageEvent"

def expectedElements : String := expected ++ " with 3 elements"

def decode : Decoder Event
  | depth, .object es stop => do
    let depth ← sound (Document.descend depth)
    (← entries (fields depth) .nothing es stop).complete
  | depth, .array ds stop => do
    let depth ← sound (Document.descend depth)
    let (type, ds) ← element expectedElements 0 (decodeText depth) ds stop
    let (timestamp, ds) ← element expectedElements 1 (decodeText depth) ds stop
    let (data, ds) ← elementOr [] (Decode.fields depth) ds stop
    close ds stop
    return ⟨type, timestamp, data⟩
  | _, d => unexpected expected d

end Event

end ProfiledBuild
