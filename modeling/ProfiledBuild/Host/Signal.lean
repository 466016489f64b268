import ProfiledBuild.Host.Stream

/-! Signals: their numbers and names, and what they do to a process that has not asked for them. -/

namespace ProfiledBuild

namespace Signal

def named : List (Nat × String × String) :=
  [(1, "HUP", "Hangup"), (2, "INT", "Interrupt"), (3, "QUIT", "Quit"),
    (4, "ILL", "Illegal instruction"), (5, "TRAP", "Trace/breakpoint trap"), (6, "ABRT", "Aborted"),
    (7, "BUS", "Bus error"), (8, "FPE", "Floating point exception"), (9, "KILL", "Killed"),
    (10, "USR1", "User defined signal 1"), (11, "SEGV", "Segmentation fault"),
    (12, "USR2", "User defined signal 2"), (13, "PIPE", "Broken pipe"), (14, "ALRM", "Alarm clock"),
    (15, "TERM", "Terminated"), (16, "STKFLT", "Stack fault"), (17, "CHLD", "Child exited"),
    (18, "CONT", "Continued"), (19, "STOP", "Stopped (signal)"), (20, "TSTP", "Stopped"),
    (21, "TTIN", "Stopped (tty input)"), (22, "TTOU", "Stopped (tty output)"),
    (23, "URG", "Urgent I/O condition"), (24, "XCPU", "CPU time limit exceeded"),
    (25, "XFSZ", "File size limit exceeded"), (26, "VTALRM", "Virtual timer expired"),
    (27, "PROF", "Profiling timer expired"), (28, "WINCH", "Window changed"),
    (29, "IO", "I/O possible"), (30, "PWR", "Power failure"), (31, "SYS", "Bad system call")]

/-- The first and the last signal that programs may use as they like. -/
def firstFree : Nat := 34
def last : Nat := 64

def name (n : Nat) : String :=
  match named.lookup n with
  | some (name, _) => name
  | none =>
    if n = firstFree then "RTMIN"
    else if n = last then "RTMAX"
    else if n < firstFree ∨ last < n then toString n
    else if n < 50 then "RTMIN+" ++ toString (n - firstFree)
    else "RTMAX-" ++ toString (last - n)

def report (n : Nat) : String :=
  match named.lookup n with
  | some (_, report) => report
  | none => "Real-time signal " ++ toString (n - firstFree)

def ofName? (r : Raw) : Option Nat :=
  match Raw.number? r with
  | some n => if n ≤ last then some n else none
  | none =>
    let wanted := String.ofList (r.map Char.toUpper)
    (List.range (last + 1)).find? fun n => n ≠ 0 && name n = wanted

/-- Signals that do nothing to a process that has not asked for them. -/
def isIgnored (signal : Nat) : Bool :=
  signal = 0 || signal = 17 || signal = 18 || signal = 23 || signal = 28

/-- Nothing can be done against these. -/
def isForced (signal : Nat) : Bool := signal = 9 || signal = 19

end Signal

namespace Driver

/-- Broken pipes are ignored. Signals that would only halt the driver count for nothing here. -/
def ignores (signal : Nat) : Bool :=
  Signal.isIgnored signal || signal = 13 || (19 ≤ signal && signal ≤ 22)

/-- A fault is taken once: if it is none of the driver's own, it is left to the system from then
on. -/
def isFault (signal : Nat) : Bool := signal = 7 || signal = 11

/-- The driver shuts down on the first of its two signals that reaches it. Other signals end it,
unless it ignores them. -/
def take (signal newest : Nat) (d : Driver) : Driver :=
  let asked (signal : ShutdownSignal) : Driver :=
    if d.shutdown.isSome then d else { d with shutdown := some signal, askedAt := newest }
  if d.endedBy.isSome || ignores signal then d
  else if signal = 2 then asked .interrupt
  else if signal = 15 then asked .terminate
  else if isFault signal && !d.faults.contains signal then
    { d with faults := signal :: d.faults }
  else { d with endedBy := some signal }

end Driver

namespace Host

/-- Leaves a signal for a process to take later, and no more than once. -/
def leaveSignal (h : Host) (signal pid : Nat) : Host :=
  if h.sent.contains (pid, signal) then h else { h with sent := h.sent ++ [(pid, signal)] }

/-- Sends a signal to a process by its number. One that waits takes it later. -/
def signal? (h : Host) (signal pid : Nat) : Option Host :=
  let taken (d : Driver) : Driver := if d.pid = pid then d.take signal h.lastPid else d
  if h.drivers.any (·.pid = pid) then
    some { h with driver := taken h.driver, others := h.others.map taken }
  else if h.waiting.contains pid then some (h.leaveSignal signal pid)
  else none

def nextSignal (h : Host) (pid : Nat) : Option (Nat × Host) :=
  (h.sent.lookup pid).map fun signal => (signal, { h with sent := h.sent.erase (pid, signal) })

end Host

end ProfiledBuild
