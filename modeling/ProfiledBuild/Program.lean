import ProfiledBuild.Host.Attempt
import ProfiledBuild.Invocation

/-! The program on a host, where its stages may start it once more. -/

namespace ProfiledBuild

/-- A host as one of its processes sees it. -/
def Host.system (driver : Shell.Process → Image → Host → Ending × Host) (p : Shell.Process) :
    System Host where
  setting := p.setting
  attempt := attempt driver p
  endedBy h := h.driver.endedBy

structure Ended where
  finish : Finish
  output : Octets
  errors : Octets
  deriving DecidableEq, Repr

namespace Program

/-- The program started by a stage of its own, which may go on like that for so many levels. -/
def inside (t : Target) (clock : Clock) (id : RunId) :
    Nat → Shell.Process → Image → Host → Ending × Host
  | 0, _, _, h => (.cutOff, h)
  | levels + 1, p, image, h =>
    let left := runWords t (Host.system (inside t clock id levels) p)
      (image.args.map Raw.toOctets) (h.enterDriver p.pid (image.name :: image.args)) clock id
    let host := Tools.writeTo left.environment.leaveDriver p.descriptors 1
      (Raw.ofOctets left.printed)
    let host := Tools.writeTo host p.descriptors 2 (Raw.ofOctets left.errors)
    match left.finish with
    | .status octet => (.exited octet.toNat, host)
    | .signal number => (.killed number, host)

def mostLevels : Nat := 1000

def run (words : List Octets) (h : Host) (clock : Clock) (id : RunId)
    (t : Target := .linux) : Ended :=
  let driver := { h.driver with words := Raw.ofString "aprs-pgo" :: words.map Raw.ofOctets }
  let left := runWords t (Host.system (inside t clock id mostLevels) h.process) words
    { h with driver := driver } clock id
  ⟨left.finish, left.environment.output ++ left.printed, left.errors⟩

end Program

end ProfiledBuild
