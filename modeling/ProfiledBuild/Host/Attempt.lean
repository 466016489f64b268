import ProfiledBuild.Runner.Process
import ProfiledBuild.Shell.Run

/-! Stage commands as processes of a host. -/

namespace ProfiledBuild.Host

def hasNul (c : StageCommand) : Bool := c.program.octets.contains 0 || c.args.any (·.contains 0)

/-- Nothing is started any more once the driver has ended. -/
def lostDriver : SystemError := .ofKind .interrupted none

def nulError : SystemError := .ofKind .invalidInput (some "nul byte found in provided data")

def initPid : Nat := 1

def process (h : Host) : Shell.Process := ⟨driverPid, initPid, h.environment, .standard, []⟩

section

variable (driver : Shell.Process → Image → Host → Ending × Host)

def execute (p : Shell.Process) (image : Image) (h : Host) : Ending × Host :=
  let (ending, after) := Shell.program driver Shell.stepLimit p image h
  (ending, { after with
    directory := h.directory
    mask := h.mask
    waiting := h.waiting
    sent := after.sent.filter fun (pid, _) => h.waiting.contains pid
    fault := h.fault })

/-- What has happened to a process when the driver turns to it. A process that has been asked to shut
down its driver and then ends by itself, without starting another one, is faster than the driver. -/
def happening (d : Driver) (pid newest : Nat) (ending : Ending) : Happening :=
  match d.shutdown with
  | none => .ended pid ending.waitStatus
  | some signal =>
    if ending = .cutOff || d.askedAt ≠ newest then .signalled pid signal
    else .ended pid ending.waitStatus

/-- Starts a stage's program for a driver and follows it to its end. What it writes to the error stream
is kept apart for the driver. -/
def attempt (p : Shell.Process) (h : Host) (c : StageCommand) : Attempt Host :=
  if h.driver.endedBy.isSome then ⟨.notStarted lostDriver, [], h⟩
  else if hasNul c then ⟨.notStarted nulError, [], h⟩
  else match h.find p.searchPath (Raw.ofOctets c.program.octets) (c.args.map Raw.ofOctets) with
    | .error e => ⟨.notStarted (.numbered e.number), [], h⟩
    | .ok image =>
      let pid := h.lastPid + 1
      let errors := h.freshStream
      let (ending, after) := execute driver
        { p with pid := pid, parent := p.pid, descriptors := p.descriptors.set 2 (.stream errors) }
        image ({ h with lastPid := pid }.setStream errors [])
      let written := Raw.toOctets (after.stream errors)
      let rest := { after.dropStream errors with driver := { after.driver with shutdown := none } }
      ⟨happening after.driver pid after.lastPid ending, written, rest⟩

end

/-- The runner of a host's processes, none of which is a driver. -/
def runner : Runner Host := fun h =>
  processRunner (attempt (fun _ _ h => (.exited 0, h)) h.process) h

/-- New files may be written by their owner only. -/
def usualMask : Nat := 18

/-- A host with files in its working directory, variables, and an input. Nothing has been written
yet. -/
def ofFiles (files : List (Octets × Octets × Bool)) (environment : List (Octets × Octets))
    (input : Octets) : Host where
  files := files.map fun (name, contents, executable) =>
    (workingDirectory ++ (Raw.splitOn '/' (Raw.ofOctets name)).filter (· ≠ []),
      .file (Raw.ofOctets contents) executable)
  times := []
  now := 0
  directory := workingDirectory
  mask := usualMask
  environment := environment.map fun (name, value) => (Raw.ofOctets name, Raw.ofOctets value)
  streams := [(0, .ofText (Raw.ofOctets input))]
  cursors := []
  lastPid := driverPid
  waiting := []
  sent := []
  fault := none
  driver := .calm driverPid []
  others := []

def output (h : Host) : Octets := Raw.toOctets (h.stream 1)

end ProfiledBuild.Host
