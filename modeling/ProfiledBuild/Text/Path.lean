import ProfiledBuild.Text.Utf8

/-! File paths. A path is kept as the octets it was given; two paths are the same when their
components agree, so repeated slashes, a trailing slash and inner `.` components do not count. -/

namespace ProfiledBuild

structure Path where
  octets : Octets
  deriving DecidableEq, Repr

namespace Path

inductive Component where
  | root
  | current
  | name (octets : Octets)
  deriving DecidableEq, Repr

def slash : UInt8 := 0x2F

def dot : UInt8 := 0x2E

def ofString (s : String) : Path := ⟨Utf8.encode s⟩

def segments : Octets → List Octets
  | [] => [[]]
  | b :: rest =>
    if b = slash then [] :: segments rest
    else match segments rest with
      | [] => [[b]]
      | s :: more => (b :: s) :: more

/-- A `.` counts only where it starts a relative path. -/
def components (p : Path) : List Component :=
  let names := ((segments p.octets).filter fun s => s ≠ [] ∧ s ≠ [dot]).map .name
  match segments p.octets with
  | [] :: _ :: _ => .root :: names
  | s :: _ => if s = [dot] then .current :: names else names
  | [] => names

def same (p q : Path) : Bool := p.components = q.components

def display (p : Path) : String := Utf8.lossy p.octets

/-- Goes on from a path by another one. An absolute path stands for itself. -/
def push (p q : Path) : Path :=
  if q.octets.head? = some slash then q
  else if p.octets = [] ∨ p.octets.getLast? = some slash then ⟨p.octets ++ q.octets⟩
  else ⟨p.octets ++ slash :: q.octets⟩

end Path

end ProfiledBuild
