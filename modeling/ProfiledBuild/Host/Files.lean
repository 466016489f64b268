import ProfiledBuild.Host.Basic

/-! Paths, and what they lead to. -/

namespace ProfiledBuild.Host

def directories : List (List String) :=
  [[], ["bin"], ["usr"], ["usr", "bin"], ["etc"], ["dev"], ["tmp"], ["tmp", "work"], ["proc"]]

def driverNamed? (h : Host) (pid : String) : Option Driver :=
  h.drivers.find? fun d => toString d.pid = pid

def driverTool : String := "aprs-pgo"

/-- The state of a driver. It catches both signals that shut it down. -/
def driverStatus : String :=
  "Name:\taprs-pgo\nSigIgn:\t0000000000001000\nSigCgt:\t0000000000014442\n"

def systemNode? (h : Host) (place : List Raw) : Option Node :=
  let names := place.map String.ofList
  if directories.contains names then some .directory
  else match names with
    | ["bin", t] => if tools.contains t then some (.tool t) else none
    | ["usr", "bin", t] => if tools.contains t then some (.tool t) else none
    | ["dev", "null"] => some (.device .null)
    | ["dev", "zero"] => some (.device .zero)
    | ["dev", "full"] => some (.device .full)
    | ["etc", "hostname"] => some (.file "host\n".toList false)
    | ["etc", "passwd"] => some (.file [] false)
    | ["proc", pid] => (h.driverNamed? pid).map fun _ => .directory
    | ["proc", pid, "status"] =>
      (h.driverNamed? pid).map fun _ => .file driverStatus.toList false
    | ["proc", pid, "cmdline"] =>
      (h.driverNamed? pid).map fun d => .file (d.words.flatMap (· ++ ['\x00'])) false
    | ["proc", pid, "exe"] => (h.driverNamed? pid).map fun _ => .tool driverTool
    | _ => none

/-- What stands at a place. The directories on the way to a file are there with it. -/
def node? (h : Host) (place : List Raw) : Option Node :=
  match h.files.lookup place with
  | some node => some node
  | none =>
    if h.files.any fun (f, _) => f.take place.length = place then some .directory
    else h.systemNode? place

/-- Follows the names of a path from a place, through so many links. A link at the end of the path
may stand for itself. -/
def walk (h : Host) (follow : Bool) (links : Nat) (place : List Raw) :
    List Raw → Except StartError (List Raw)
  | [] => .ok place
  | name :: rest =>
    if h.node? place ≠ some .directory then .error .notDirectory
    else if 255 < name.length then .error .nameTooLong
    else if name = [] ∨ name = ['.'] then walk h follow links place rest
    else if name = ['.', '.'] then walk h follow links place.dropLast rest
    else match h.node? (place ++ [name]) with
      | none => .error .notFound
      | some (.link target) =>
        if rest = [] ∧ !follow then .ok (place ++ [name])
        else match links with
          | 0 => .error .tooManyLevels
          | links + 1 =>
            walk h follow links (if target.head? = some '/' then [] else place)
              (Raw.splitOn '/' target ++ rest)
      | some _ => walk h follow links (place ++ [name]) rest
termination_by names => (links, names.length)

def mostLinks : Nat := 40

def placeOf (h : Host) (follow : Bool) (path : Raw) : Except StartError (List Raw) :=
  if 4096 ≤ path.length then .error .nameTooLong
  else match path with
    | [] => .error .notFound
    | '/' :: rest => h.walk follow mostLinks [] (Raw.splitOn '/' rest)
    | _ => h.walk follow mostLinks h.directory (Raw.splitOn '/' path)

def place (h : Host) (path : Raw) : Except StartError (List Raw) := h.placeOf true path

def nodeAt (h : Host) (follow : Bool) (path : Raw) : Except StartError Node := do
  match h.node? (← h.placeOf follow path) with
  | some node => .ok node
  | none => .error .notFound

def lookup (h : Host) (path : Raw) : Except StartError Node := h.nodeAt true path

/-- What a path names itself, be it a link. -/
def lookupLink (h : Host) (path : Raw) : Except StartError Node := h.nodeAt false path

def withoutSlashes (path : Raw) : Raw := (path.reverse.dropWhile (· = '/')).reverse

/-- The place that a path would name if its last name were new: its directory has to be there. A
link that leads nowhere makes place for what it names. -/
def newPlaceFrom (h : Host) (path : Raw) : Nat → Except StartError (List Raw)
  | 0 => .error .tooManyLevels
  | links + 1 => do
    let bare := withoutSlashes path
    let name := (bare.reverse.takeWhile (· ≠ '/')).reverse
    let parent := bare.take (bare.length - name.length)
    let place ← if parent = [] then .ok h.directory else h.place parent
    if name = [] then throw .notFound
    else if h.node? place ≠ some .directory then throw .notDirectory
    else match h.node? (place ++ [name]) with
      | some (.link target) =>
        let target := if target.head? = some '/' then target else parent ++ target
        h.newPlaceFrom target links
      | _ => return place ++ [name]

def newPlace (h : Host) (path : Raw) : Except StartError (List Raw) := h.newPlaceFrom path mostLinks

def allNamesIn (h : Host) (place : List Raw) : List Raw :=
  let names := h.files.filterMap fun (f, _) =>
    if f.take place.length = place then (f.drop place.length).head? else none
  names.eraseDups.mergeSort fun a b => !(b < a)

/-- The names that do not start with a point. -/
def namesIn (h : Host) (place : List Raw) : List Raw :=
  (h.allNamesIn place).filter fun n => n.head? ≠ some '.'

def timeOf (h : Host) (place : List Raw) : Nat := (h.times.lookup place).getD 0

def touched (h : Host) (place : List Raw) : Host :=
  { h with times := (place, h.now) :: h.times.filter (·.1 ≠ place) }

def put (h : Host) (place : List Raw) (node : Node) : Host :=
  { h.touched place with files := (place, node) :: h.files.filter (·.1 ≠ place) }

/-- A new file cannot be executed. -/
def writeFile (h : Host) (place : List Raw) (contents : Raw) : Host :=
  let executable := match h.files.lookup place with
    | some (.file _ e) => e
    | _ => false
  h.put place (.file contents executable)

/-- Takes away what stands in a place and inside it. The directory that it was in stays. -/
def remove (h : Host) (place : List Raw) : Host :=
  let rest := h.files.filter fun (f, _) => f.take place.length ≠ place
  ({ h with files := rest }).put place.dropLast .directory

def tick (h : Host) : Host := { h with now := h.now + 1 }

end ProfiledBuild.Host
