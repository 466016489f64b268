import ProfiledBuild.Pipeline

/-! The dry run: commands are printed and not run. A command that cannot be printed is an error of
the system. -/

namespace ProfiledBuild

/-- The error of an operation on an output. A write may have let the first octets through. -/
structure Fault where
  error : SystemError
  through : Nat
  deriving DecidableEq

/-- An output that takes octets. Each write and each flush has an outcome of its own; a console
past the end of its list of outcomes takes everything. -/
structure Console where
  out : Octets
  outcomes : List (Option Fault)
  deriving DecidableEq

namespace Console

def clear : Console := ⟨[], []⟩

/-- What has come out, as text. -/
def written (c : Console) : String := Utf8.lossy c.out

/-- The fault, if any, of the operation that comes after `n` others. -/
def faultAt (c : Console) (n : Nat) : Option Fault := c.outcomes[n]?.join

/-- The console after an operation that has let these octets out. -/
def after (c : Console) (octets : Octets) : Console := ⟨c.out ++ octets, c.outcomes.tail⟩

def write (c : Console) (octets : Octets) : Except SystemError Unit × Console :=
  match c.faultAt 0 with
  | some fault => (.error fault.error, c.after (octets.take fault.through))
  | none => (.ok (), c.after octets)

def flush (c : Console) : Except SystemError Unit × Console :=
  match c.faultAt 0 with
  | some fault => (.error fault.error, c.after [])
  | none => (.ok (), c.after [])

def line (text : String) : Octets := Utf8.encode (text ++ "\n")

/-- A line is written and then flushed; it is not flushed when it could not be written. -/
def writeLine (c : Console) (text : String) : Except SystemError Unit × Console :=
  match c.write (line text) with
  | (.ok (), c) => c.flush
  | (.error error, c) => (.error error, c)

end Console

def dryRun : Runner Console := fun console command =>
  match console.writeLine command.display with
  | (.ok (), console) => { outcome := .ok (.code 0), log := [], state := console }
  | (.error error, console) => { outcome := .error (.system error), log := [], state := console }

end ProfiledBuild
