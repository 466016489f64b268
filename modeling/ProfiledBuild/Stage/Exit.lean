import ProfiledBuild.Json.Decode

/-! How a process ended, and the signals that end a run from outside. -/

namespace ProfiledBuild

/-- A process ends with a code of its own or is ended by a signal. -/
inductive Exit where
  | code (value : Int32)
  | signal (number : Int32)
  deriving DecidableEq, Repr

namespace Exit

def succeeded (exit : Exit) : Bool := exit = .code 0

/-- The code that stands for this exit; signals count from 128. -/
def exitCode : Exit → Int32
  | .code value => value
  | .signal number => 128 + number

def text : Exit → String
  | .code value => "exit code " ++ toString value.toInt
  | .signal number => "signal " ++ toString number.toInt

/-- Reads a wait status. Its low seven bits are zero after a normal exit, all ones for a process
that has not ended, and the signal's number otherwise; the code is the next octet. -/
def ofWaitStatus (status : Int32) : Exit :=
  let low := status &&& 0x7F
  if low = 0 then .code ((status >>> 8) &&& 0xFF)
  else if low = 0x7F then .code 1
  else .signal low

/-- The name of an exit's kind and how to make the exit from its value. -/
def kinds : List (String × (Int32 → Exit)) := [("code", .code), ("signal", .signal)]

def toJson : Exit → Json
  | .code value => Json.ofFields [("kind", .string "code"), ("value", Json.int value.toInt)]
  | .signal number => Json.ofFields [("kind", .string "signal"), ("value", Json.int number.toInt)]

open Json Json.Decode

inductive Key where
  | kind
  | value
  deriving DecidableEq

def Key.name : Key → String
  | .kind => "kind"
  | .value => "value"

def nextField : List (Document × Document) → Option Fault →
    Decoded (Option (Key × Document × List (Document × Document)))
  | [], none => .ok none
  | [], some f => fault f
  | (k, d) :: rest, stop => do
    match ← sound k.key with
    | "kind" => return some (.kind, d, rest)
    | "value" => return some (.value, d, rest)
    | _ =>
      sound d.skip
      nextField rest stop

/-- Both fields have been read: neither may come again. -/
def noMore (exit : Exit) (rest : List (Document × Document)) (stop : Option Fault) :
    Decoded Exit := do
  match ← nextField rest stop with
  | some (key, _) => mismatch (.duplicate key.name)
  | none => return exit

/-- An exit written as an object. A value that comes before its kind is kept until the kind is
known. -/
def ofEntries (depth : Nat) (entries : List (Document × Document)) (stop : Option Fault) :
    Decoded Exit := do
  match ← nextField entries stop with
  | none => mismatch (.missing "kind")
  | some (.kind, d, rest) =>
    let make ← variant kinds depth d
    match ← nextField rest stop with
    | none => mismatch (.missing "value")
    | some (.kind, _) => mismatch (.duplicate "kind")
    | some (.value, d, rest) =>
      let exit := make (← int32 depth d)
      noMore exit rest stop
  | some (.value, d, rest) =>
    let kept ← sound (d.value depth)
    match ← nextField rest stop with
    | none => mismatch (.missing "kind")
    | some (.value, _) => mismatch (.duplicate "value")
    | some (.kind, d, rest) =>
      let make ← variant kinds depth d
      let exit := make (← int32 depth (.ofJson kept))
      noMore exit rest stop

def expected : String := "adjacently tagged enum ExitState"

def decode : Decoder Exit
  | depth, .object entries stop => do
    let depth ← sound (Document.descend depth)
    ofEntries depth entries stop
  | depth, .array ds stop => do
    let depth ← sound (Document.descend depth)
    let (make, ds) ← element expected 0 (name kinds) ds stop
    let (value, ds) ← element expected 1 (int32 depth) ds stop
    close ds stop
    return make value
  | _, d => unexpected expected d

end Exit

inductive ShutdownSignal where
  | interrupt
  | terminate
  deriving DecidableEq, Repr, Inhabited

namespace ShutdownSignal

def text : ShutdownSignal → String
  | .interrupt => "SIGINT"
  | .terminate => "SIGTERM"

def exitCode : ShutdownSignal → Int32
  | .interrupt => 130
  | .terminate => 143

end ShutdownSignal

end ProfiledBuild
