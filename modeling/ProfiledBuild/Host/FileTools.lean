import ProfiledBuild.Host.Options

/-! Tools that list files, and tools that change them. -/

namespace ProfiledBuild.Tools

def Context.withHost (x : Context) (h : Host) : Context := { x with host := h }

def cannotCreate (path : Raw) (e : StartError) : String :=
  "cannot create directory " ++ quoted path ++ ": " ++ missingFile e

def makeDirectory (path : Raw) (x : Context) : Except String Context :=
  match x.host.lookupLink path with
  | .ok _ => .error ("cannot create directory " ++ quoted path ++ ": File exists")
  | .error _ =>
    match x.host.newPlace path with
    | .ok place => .ok (x.withHost (x.host.put place .directory))
    | .error e => .error (cannotCreate path e)

def leads (path : Raw) : List Raw :=
  let bare := Host.withoutSlashes path
  let cuts := (List.range bare.length).filter fun i =>
    bare[i]? = some '/' && i ≠ 0 && bare[i - 1]? ≠ some '/'
  cuts.map bare.take ++ [bare]

def makePath (path : Raw) (x : Context) : Except String Context :=
  (leads path).foldlM (fun x lead =>
    match x.host.lookup lead with
    | .ok .directory => .ok x
    | .ok _ =>
      if lead = path then makeDirectory lead x else .error (cannotCreate lead .notDirectory)
    | .error _ => makeDirectory lead x) x

def makeDirectories : Tool := fun args =>
  withOperands "mkdir" ⟨['p', 'v'], ['m'], [("parents", 'p'), ("verbose", 'v')]⟩ args fun chosen =>
    forEach (if chosen.has 'p' then makePath else makeDirectory) "mkdir" chosen.operands 0

/-- Only an empty directory can be taken away. -/
def removeDirectory (path : Raw) (x : Context) : Except String Context :=
  let failure (why : String) : Except String Context :=
    .error ("failed to remove " ++ quoted path ++ ": " ++ why)
  match x.host.lookupLink path, x.host.placeOf false path with
  | .ok .directory, .ok place =>
    if x.host.files.any fun (f, _) => f ≠ place && f.take place.length = place then
      failure "Directory not empty"
    else .ok (x.withHost (x.host.remove place))
  | .ok _, _ => failure "Not a directory"
  | .error e, _ => failure (missingFile e)

def removeDirectories : Tool := fun args =>
  withOperands "rmdir" ⟨['v'], [], []⟩ args fun chosen =>
    forEach removeDirectory "rmdir" chosen.operands 0

/-- Files first, then what is in directories. With several operands each directory has its name
above it. -/
def listFiles : Tool := fun args =>
  withOptions "ls" ⟨['1', 'd', 'a', 'A'], [], [("all", 'a')]⟩ args fun chosen x =>
    let names := if chosen.operands = [] then [['.']] else chosen.operands
    let names := names.mergeSort fun a b => !(b < a)
    let missing := names.filterMap fun name =>
      match x.host.lookupLink name with
      | .ok _ => none
      | .error e => some ("ls: cannot access " ++ quoted name ++ ": " ++ missingFile e)
    let isDirectory (name : Raw) : Bool :=
      !chosen.has 'd' && x.host.lookup name matches .ok .directory
    let isThere (name : Raw) : Bool := (x.host.lookupLink name).toOption.isSome
    let inside (place : List Raw) : List Raw :=
      if chosen.has 'a' then ['.'] :: ['.', '.'] :: x.host.allNamesIn place
      else if chosen.has 'A' then x.host.allNamesIn place
      else x.host.namesIn place
    let files := names.filter fun name => isThere name && !isDirectory name
    let sections := (names.filter isDirectory).map fun name =>
      let found := (x.host.place name).toOption.elim [] inside
      let title := if names.length < 2 then [] else name ++ [':', '\n']
      title ++ found.flatMap (· ++ ['\n'])
    let sections := if files = [] then sections else files.flatMap (· ++ ['\n']) :: sections
    let x := missing.foldl Context.say x
    (.exited (if missing = [] then 0 else 2), x.write 1 (['\n'].intercalate sections))

def modeLetters : List Char := ['r', 'w', 'x', 'X', 's', 't']

/-- Whether a file can be executed after one change of its mode. -/
def changeExecutable (before : Bool) (change : Raw) : Option Bool :=
  match change.dropWhile fun c => ['u', 'g', 'o', 'a'].contains c with
  | sign :: letters =>
    let marked := letters.contains 'x' || (before && letters.contains 'X')
    if !letters.all modeLetters.contains then none
    else match sign with
      | '+' => some (before || marked)
      | '-' => some (before && !marked)
      | '=' => some marked
      | _ => none
  | [] => none

/-- Whether a file can be executed under a mode, which is a number or a list of changes. -/
def modeExecutable (before : Bool) (mode : Raw) : Option Bool :=
  if mode ≠ [] ∧ mode.all fun c => '0' ≤ c && c ≤ '7' then
    some ((mode.reverse.take 3).any fun c => (c.toNat - 0x30) % 2 = 1)
  else (Raw.splitOn ',' mode).foldlM changeExecutable before

def setMode (mode path : Raw) (x : Context) : Except String Context :=
  match x.host.lookup path, x.host.place path with
  | .ok (.file contents before), .ok place =>
    let executable := (modeExecutable before mode).getD before
    .ok (x.withHost (x.host.put place (.file contents executable)))
  | .ok _, _ => .ok x
  | .error e, _ => .error ("cannot access " ++ quoted path ++ ": " ++ missingFile e)

/-- A mode may start like an option. -/
def isMode (word : Raw) : Bool :=
  match word with
  | '-' :: c :: _ => modeLetters.contains c
  | _ => false

def changeMode : Tool := fun args x =>
  let options := args.filter fun w => w.head? = some '-' && !isMode w
  let words := args.filter fun w => w.head? ≠ some '-' || isMode w
  match (⟨['R', 'v', 'f', 'c'], [], [("recursive", 'R')]⟩ : Options).read options with
  | .error e => misused "chmod" e.message x
  | .ok _ =>
    match words with
    | [] => misused "chmod" missingOperand x
    | [mode] => misused "chmod" ("missing operand after " ++ quoted mode) x
    | mode :: paths =>
      if (modeExecutable false mode).isNone then
        misused "chmod" ("invalid mode: " ++ quoted mode) x
      else forEach (setMode mode) "chmod" paths 0 x

def removeOne (chosen : Chosen) (path : Raw) (x : Context) : Except String Context :=
  match x.host.lookupLink path, x.host.placeOf false path with
  | .ok .directory, .ok place =>
    if chosen.has 'r' || chosen.has 'R' then .ok (x.withHost (x.host.remove place))
    else .error ("cannot remove " ++ quoted path ++ ": Is a directory")
  | .ok _, .ok place => .ok (x.withHost (x.host.remove place))
  | .error e, _ =>
    if chosen.has 'f' && (e = .notFound || e = .notDirectory) then .ok x
    else .error ("cannot remove " ++ quoted path ++ ": " ++ missingFile e)
  | _, .error e => .error ("cannot remove " ++ quoted path ++ ": " ++ missingFile e)

def remove : Tool := fun args =>
  withOptions "rm" ⟨['f', 'r', 'R', 'v'], [], [("force", 'f'), ("recursive", 'r')]⟩ args
    fun chosen x =>
      if chosen.operands = [] && !chosen.has 'f' then misused "rm" missingOperand x
      else forEach (removeOne chosen) "rm" chosen.operands 0 x

def touchOne (path : Raw) (x : Context) : Except String Context :=
  match x.host.place path with
  | .ok place => .ok (x.withHost (x.host.touched place))
  | .error _ =>
    match x.host.newPlace path with
    | .ok place => .ok (x.withHost (x.host.writeFile place []))
    | .error e => .error ("cannot touch " ++ quoted path ++ ": " ++ missingFile e)

def touch : Tool := fun args =>
  withOptions "touch" ⟨['c', 'a', 'm'], ['d', 't', 'r'], []⟩ args fun chosen x =>
    if chosen.operands = [] then misused "touch" "missing file operand" x
    else if chosen.has 'c' then (.exited 0, x)
    else forEach touchOne "touch" chosen.operands 0 x

end ProfiledBuild.Tools
