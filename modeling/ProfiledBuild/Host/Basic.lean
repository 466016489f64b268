import ProfiledBuild.Stage.Exit
import ProfiledBuild.Text.Raw

/-! A host for processes: the files of a working directory, the tools that are installed, the
environment, and the streams that processes read and write. -/

namespace ProfiledBuild

/-- Files that stand for no contents of their own: one takes anything and gives nothing, one gives
zeros without end, and one takes nothing. -/
inductive Device where
  | null
  | zero
  | full
  deriving DecidableEq, Repr

/-- What stands at a place. A link stands for the path that it holds. -/
inductive Node where
  | directory
  | file (contents : Raw) (executable : Bool)
  | tool (name : String)
  | device (device : Device)
  | link (target : Raw)
  deriving DecidableEq, Repr

structure StartError where
  number : Int32
  deriving DecidableEq, Repr

namespace StartError

def notFound : StartError := ⟨2⟩
def argumentsTooLong : StartError := ⟨7⟩
def notExecutable : StartError := ⟨8⟩
def denied : StartError := ⟨13⟩
def notDirectory : StartError := ⟨20⟩
def nameTooLong : StartError := ⟨36⟩
def tooManyLevels : StartError := ⟨40⟩

end StartError

/-- A driver, a process that starts stages: its number and the words it was called with, the shutdown
that it has been asked for and the newest process at that time, the signal that has ended it, and the
faults that it has taken once. -/
structure Driver where
  pid : Nat
  words : List Raw
  shutdown : Option ShutdownSignal
  askedAt : Nat
  endedBy : Option Nat
  faults : List Nat
  deriving DecidableEq, Repr

namespace Driver

/-- No signal has come yet. -/
def calm (pid : Nat) (words : List Raw) : Driver := ⟨pid, words, none, 0, none, []⟩

/-- A shutdown has been asked for, and the driver is there to carry it out. -/
def isStopping (d : Driver) : Bool := d.shutdown.isSome && d.endedBy.isNone

end Driver

/-- A stream between processes: what is to be read next, and behind it what was written since, the
last writing first. There may be room for only so much. A stream that has been written past its room
has no reader any more, as far as the writer knows; a reader is left wanting if it would have taken
more. -/
structure Queue where
  front : Raw
  back : List Raw
  room : Option Nat
  isBroken : Bool
  isWanting : Bool
  deriving DecidableEq, Repr

namespace Queue

def ofText (text : Raw) : Queue := ⟨text, [], none, false, false⟩

def narrow (room : Nat) : Queue := ⟨[], [], some room, false, false⟩

def text (q : Queue) : Raw :=
  match q.back with
  | [] => q.front
  | back => q.front ++ back.reverse.flatten

def push (q : Queue) (text : Raw) : Queue :=
  match q.room with
  | none => { q with back := text :: q.back }
  | some n =>
    { q with
      back := text.take n :: q.back
      room := some (n - text.length)
      isBroken := q.isBroken || n < text.length }

/-- The stream with a rest left in it. A reader that has come to its end is left wanting if it was
cut short. -/
def leave (q : Queue) (rest : Raw) (atEnd : Bool) : Queue :=
  { q with front := rest, back := [], isWanting := q.isWanting || (atEnd && q.isBroken) }

end Queue

/-- A file that is open: how far it has been read or written, and whether all is written at its
end. -/
structure Cursor where
  place : List Raw
  offset : Nat
  appends : Bool
  deriving DecidableEq, Repr

/-- Why something that was written is lost: nobody reads it, there is no space, or the descriptor is
closed. -/
inductive WriteFault where
  | noReader
  | noSpace
  | notOpen
  deriving DecidableEq, Repr

/-- Streams are numbered: 0 is the input, 1 the output, 2 the error stream, and others are opened
as they are needed. Files are known by the names on the way to them, and have the time of their last
change. The directory and the mask for new files are those of the process that runs. Of the processes
those are kept that wait for another one, and the signals that they have yet to take. The driver is the
one whose stage runs; others wait for it, the one that has started it first. -/
structure Host where
  files : List (List Raw × Node)
  times : List (List Raw × Nat)
  now : Nat
  directory : List Raw
  mask : Nat
  environment : List (Raw × Raw)
  streams : List (Nat × Queue)
  cursors : List (Nat × Cursor)
  lastPid : Nat
  waiting : List Nat
  sent : List (Nat × Nat)
  fault : Option WriteFault
  driver : Driver
  others : List Driver
  deriving DecidableEq, Repr

namespace Host

def driverPid : Nat := 1000

def drivers (h : Host) : List Driver := h.driver :: h.others

def enterDriver (h : Host) (pid : Nat) (words : List Raw) : Host :=
  { h with driver := .calm pid words, others := h.drivers }

def leaveDriver (h : Host) : Host :=
  match h.others with
  | [] => h
  | driver :: others => { h with driver := driver, others := others }

def workingDirectory : List Raw := ["tmp".toList, "work".toList]

def tools : List String :=
  ["sh", "dash", "bash", "env", "nice", "nohup", "timeout", "xargs", "echo", "printf", "true",
    "false", "yes", "seq", "expr", "cat", "tac", "rev", "nl", "tee", "head", "tail", "wc", "sort",
    "uniq", "comm", "cmp", "tr", "cut", "paste", "grep", "egrep", "fgrep", "sed", "basename",
    "dirname", "printenv", "sleep", "kill", "test", "[", "ls", "mkdir", "rmdir", "chmod", "rm",
    "touch", "cp", "mv", "ln", "readlink", "realpath"]

def stream (h : Host) (id : Nat) : Raw := ((h.streams.lookup id).map (·.text)).getD []

def setQueue (h : Host) (id : Nat) (q : Queue) : Host :=
  { h with streams := (id, q) :: h.streams.filter (·.1 ≠ id) }

def setStream (h : Host) (id : Nat) (text : Raw) : Host := h.setQueue id (.ofText text)

def dropStream (h : Host) (id : Nat) : Host :=
  { h with streams := h.streams.filter (·.1 ≠ id) }

def freshStream (h : Host) : Nat := h.streams.foldl (fun n (id, _) => max n (id + 1)) 3

def freshCursor (h : Host) : Nat := h.cursors.foldl (fun n (id, _) => max n (id + 1)) 0

end Host

end ProfiledBuild
