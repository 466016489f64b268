import ProfiledBuild.Host.FileTools

/-! Tools that bring files to other places, and tools for links between places. -/

namespace ProfiledBuild.Tools

/-- The last name on a path; slashes at its end do not count. -/
def lastName (path : Raw) : Raw :=
  let bare := Host.withoutSlashes path
  if bare = [] then path.take 1 else (bare.reverse.takeWhile (· ≠ '/')).reverse

/-- Where something goes that is brought to a path: into a directory, or to the path itself. -/
def destination (h : Host) (follow : Bool) (source path : Raw) : Except StartError (List Raw) :=
  match h.lookup path, h.placeOf follow path with
  | .ok .directory, _ => do return (← h.place path) ++ [lastName source]
  | _, .ok place => .ok place
  | _, .error _ => h.newPlace path

def sameFile (a b : Raw) : String := quoted a ++ " and " ++ quoted b ++ " are the same file"

def bring (h : Host) (start place : List Raw) : Host :=
  let found := h.files.filter fun (f, _) => f.take start.length = start
  found.reverse.foldl (fun h (f, node) => h.put (place ++ f.drop start.length) node) h

/-- A file that is there already keeps its mode. -/
def copyOne (chosen : Chosen) (path source : Raw) (x : Context) : Except String Context :=
  let whole := ['r', 'R', 'a'].any chosen.has
  let follow := !whole
  match x.host.nodeAt follow source, x.host.placeOf follow source with
  | .error e, _ => .error ("cannot stat " ++ quoted source ++ ": " ++ missingFile e)
  | _, .error e => .error ("cannot stat " ++ quoted source ++ ": " ++ missingFile e)
  | .ok .directory, .ok start =>
    if !whole then .error ("-r not specified; omitting directory " ++ quoted source)
    else match destination x.host true source path with
      | .error e => .error (cannotCreate path e)
      | .ok place => .ok (x.withHost (bring (x.host.put place .directory) start place))
  | .ok node, .ok start =>
    match destination x.host true source path with
    | .error e => .error ("cannot create regular file " ++ quoted path ++ ": " ++ missingFile e)
    | .ok place =>
      if place = start then .error (sameFile source path)
      else
        let node := match node, x.host.node? place with
          | .file contents _, some (.file _ executable) => .file contents executable
          | node, _ => node
        .ok (x.withHost (x.host.put place node))

/-- A link is moved itself. -/
def moveOne (_ : Chosen) (path source : Raw) (x : Context) : Except String Context :=
  match x.host.placeOf false source with
  | .error e => .error ("cannot stat " ++ quoted source ++ ": " ++ missingFile e)
  | .ok start =>
    match destination x.host false source path with
    | .error e =>
      .error ("cannot move " ++ quoted source ++ " to " ++ quoted path ++ ": " ++ missingFile e)
    | .ok place =>
      if place = start then .error (sameFile source path)
      else .ok (x.withHost ((bring x.host start place).remove start))

def bringing (tool : String) (letters : List Char) (one : Chosen → Raw → Raw → Context →
    Except String Context) : Tool := fun args =>
  withOptions tool ⟨letters, [], []⟩ args fun chosen x =>
    match chosen.operands.getLast?, chosen.operands.dropLast with
    | some path, [] => misused tool ("missing destination file operand after " ++ quoted path) x
    | some path, sources =>
      if 1 < sources.length && !(x.host.lookup path matches .ok .directory) then
        let why := match x.host.lookup path with
          | .ok _ => "Not a directory"
          | .error e => missingFile e
        (.exited 1, x.say (tool ++ ": target " ++ quoted path ++ ": " ++ why))
      else forEach (one chosen path) tool sources 0 x
    | none, _ => misused tool "missing file operand" x

def copy : Tool := bringing "cp" ['f', 'p', 'v', 'a', 'r', 'R'] copyOne

def move : Tool := bringing "mv" ['f', 'v'] moveOne

def linkOne (chosen : Chosen) (path source : Raw) (x : Context) : Except String Context :=
  let kind := if chosen.has 's' then "symbolic" else "hard"
  let failure (why : String) : Except String Context :=
    .error ("failed to create " ++ kind ++ " link " ++ quoted path ++ ": " ++ why)
  let isInside := !chosen.has 'n' && x.host.lookup path matches .ok .directory
  let path' := if isInside then Host.withoutSlashes path ++ '/' :: lastName source else path
  let place : Except StartError (List Raw) := match x.host.placeOf false path' with
    | .ok place => .ok place
    | .error _ => x.host.newPlace path'
  match place with
  | .error e => failure (missingFile e)
  | .ok place =>
    if (x.host.node? place).isSome && !chosen.has 'f' then
      .error ("failed to create " ++ kind ++ " link " ++ quoted path' ++ ": File exists")
    else if chosen.has 's' then .ok (x.withHost (x.host.put place (.link source)))
    else match x.host.lookupLink source with
      | .error e => .error ("failed to access " ++ quoted source ++ ": " ++ missingFile e)
      | .ok .directory => .error (shown source ++ ": hard link not allowed for directory")
      | .ok node => .ok (x.withHost (x.host.put place node))

def link : Tool := fun args =>
  withOptions "ln" ⟨['s', 'f', 'n', 'v'], [], [("symbolic", 's'), ("force", 'f')]⟩ args
    fun chosen x =>
      match chosen.operands.getLast?, chosen.operands.dropLast with
      | none, _ => misused "ln" "missing file operand" x
      | some path, [] => forEach (linkOne chosen ['.']) "ln" [path] 0 x
      | some path, sources => forEach (linkOne chosen path) "ln" sources 0 x

def pathOf (place : List Raw) : Raw := if place = [] then ['/'] else place.flatMap ('/' :: ·)

/-- The path that something really has; its last name may be new, if that is allowed. -/
def realPath (h : Host) (allowsNew : Bool) (path : Raw) : Except StartError Raw :=
  match h.place path with
  | .ok place => .ok (pathOf place)
  | .error e => if allowsNew then (h.newPlace path).map pathOf else .error e

def readLink : Tool := fun args =>
  withOperands "readlink" ⟨['f', 'e', 'n', 'm'], [], []⟩ args fun chosen x =>
    let resolves := chosen.has 'f' || chosen.has 'e' || chosen.has 'm'
    let one (path : Raw) : Option Raw :=
      if resolves then (realPath x.host (!chosen.has 'e') path).toOption
      else match x.host.lookupLink path with
        | .ok (.link target) => some target
        | _ => none
    let found := chosen.operands.map one
    let ending := if chosen.has 'n' && chosen.operands.length = 1 then [] else ['\n']
    (.exited (if found.all Option.isSome then 0 else 1),
      x.write 1 (found.flatMap fun t => (t.map (· ++ ending)).getD []))

def realPaths : Tool := fun args =>
  withOperands "realpath" ⟨['e', 'm', 's'], [], []⟩ args fun chosen =>
    forEach (fun path x =>
      match realPath x.host (!chosen.has 'e') path with
      | .ok text => .ok (x.write 1 (text ++ ['\n']))
      | .error e => .error (shown path ++ ": " ++ missingFile e)) "realpath" chosen.operands 0

end ProfiledBuild.Tools
