import ProfiledBuild.Text.Path

/-! The workload that the instrumented binary loads while it is profiled. Its path is handed on
exactly as given and never opened here. -/

namespace ProfiledBuild

structure Workload where
  path : Path
  nonempty : path.octets ≠ []
  deriving DecidableEq

namespace Workload

/-- Only the empty path is no workload. -/
def ofPath? (path : Path) : Option Workload :=
  if h : path.octets ≠ [] then some ⟨path, h⟩ else none

def display (w : Workload) : String := w.path.display

def same (v w : Workload) : Bool := v.path.same w.path

end Workload

end ProfiledBuild
