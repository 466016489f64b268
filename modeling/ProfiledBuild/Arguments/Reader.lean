import ProfiledBuild.Arguments.Basic
import ProfiledBuild.Text.Similarity

/-! Reading the command line, one token at a time. A value is taken when its token is met and
checked only when the next argument begins, so an unknown argument after a wrong value is what is
reported. Help wins over all that comes after it. -/

namespace ProfiledBuild.Arguments

/-- The kinds of tokens before `--`. A lone `-` is a plain token. -/
inductive Token where
  | separator
  | long (name : Octets) (value : Option Octets)
  | short (letters : Octets)
  | plain (octets : Octets)
  deriving DecidableEq, Repr

def hyphen : UInt8 := 0x2D

def equalsSign : UInt8 := 0x3D

def splitValue : Octets → Octets × Option Octets
  | [] => ([], none)
  | b :: rest =>
    if b = equalsSign then ([], some rest)
    else
      let (name, value) := splitValue rest
      (b :: name, value)

def Token.ofOctets : Octets → Token
  | [b] => .plain [b]
  | b :: c :: rest =>
    if b = hyphen then
      if c = hyphen then
        if rest = [] then .separator
        else .long (splitValue rest).1 (splitValue rest).2
      else .short (c :: rest)
    else .plain (b :: c :: rest)
  | [] => .plain []

inductive Pending where
  | option (option : ValueOption) (value : Option Octets)
  | workload (octets : Octets)
  deriving DecidableEq, Repr

structure Reading where
  pending : Option Pending
  separated : Bool
  workloadMet : Bool
  workload : Option Path
  buildTool : Option Path
  targetBinary : Option Path
  logFormat : Option LogFormat
  dryRun : Bool
  deriving DecidableEq, Repr

namespace Reading

def empty : Reading := ⟨none, false, false, none, none, none, none, false⟩

def has (r : Reading) : ValueOption → Bool
  | .buildTool => r.buildTool.isSome
  | .targetBinary => r.targetBinary.isSome
  | .logFormat => r.logFormat.isSome

def pathValue (argument : String) (v : Octets) : Except ArgumentError Path :=
  if v = [] then .error (.valueMissing argument []) else .ok ⟨v⟩

def formatValue (v : Octets) : Except ArgumentError LogFormat :=
  let o := ValueOption.logFormat
  match Utf8.decode? v with
  | none => .error (.valueInvalid o.usage (Utf8.lossy v) o.choices)
  | some s =>
    match LogFormat.named.lookup s with
    | some f => .ok f
    | none =>
      if s = "" then .error (.valueMissing o.usage o.choices)
      else .error (.valueInvalid o.usage s o.choices)

def set (r : Reading) (o : ValueOption) (v : Octets) : Except ArgumentError Reading :=
  if r.has o then .error (.repeated o.usage)
  else match o with
    | .buildTool => do return { r with buildTool := some (← pathValue o.usage v) }
    | .targetBinary => do return { r with targetBinary := some (← pathValue o.usage v) }
    | .logFormat => do return { r with logFormat := some (← formatValue v) }

def settle (r : Reading) : Except ArgumentError Reading :=
  match r.pending with
  | none => .ok r
  | some (.option o none) => .error (.valueMissing o.usage o.choices)
  | some (.option o (some v)) => { r with pending := none }.set o v
  | some (.workload v) => do
    return { r with pending := none, workload := some (← pathValue "<WORKLOAD_PATH>" v) }

def positional (r : Reading) (v : Octets) : Except ArgumentError Reading :=
  if r.workloadMet then .error (.unknown (Utf8.lossy v) none)
  else do
    let r ← r.settle
    return { r with pending := some (.workload v), workloadMet := true }

def dryRunFlag (r : Reading) : Except ArgumentError Reading := do
  let r ← r.settle
  if r.dryRun then .error (.repeated "--dry-run") else .ok { r with dryRun := true }

def helpFlag (r : Reading) (full : Bool) : Except ArgumentError Reading := do
  let _ ← r.settle
  .error (.help full)

def valueOption (r : Reading) (o : ValueOption) (value : Option Octets) :
    Except ArgumentError Reading := do
  let r ← r.settle
  match value with
  | some v => r.set o v
  | none => return { r with pending := some (.option o none) }

def optionNamed? (name : String) : Option ValueOption :=
  ValueOption.all.find? (·.name = name)

def names : List String := ["dry-run", "help"] ++ ValueOption.all.map (·.name)

/-- An unknown option may be a known one that is written in a wrong way; else it may be a value. -/
def unknownOption (name : String) : ArgumentError :=
  .unknown ("--" ++ name) (some <|
    match names.find? fun known => Similarity.isHigh name.toList known.toList with
    | some known => .similar ("--" ++ known)
    | none => .asValue)

def long (r : Reading) (name : Octets) (value : Option Octets) : Except ArgumentError Reading :=
  match Utf8.decode? name with
  | none => .error (unknownOption (Utf8.lossy name))
  | some s =>
    match optionNamed? s, value with
    | some o, _ => r.valueOption o value
    | none, some v =>
      if s = "dry-run" ∨ s = "help" then .error (.valueUnwanted ("--" ++ s) (Utf8.lossy v))
      else .error (unknownOption s)
    | none, none =>
      if s = "dry-run" then r.dryRunFlag
      else if s = "help" then r.helpFlag true
      else .error (unknownOption s)

/-- The only letter is `h`. -/
def short (r : Reading) (letters : Octets) : Except ArgumentError Reading :=
  match Utf8.pieces letters with
  | .char c :: _ =>
    if c = 'h' then r.helpFlag false
    else .error (.unknown ("-" ++ c.toString) (some .asValue))
  | _ => .error (.unknown ("-" ++ Utf8.lossy letters) (some .asValue))

def plain (r : Reading) (v : Octets) : Except ArgumentError Reading :=
  match r.pending with
  | some (.option o none) => .ok { r with pending := some (.option o (some v)) }
  | _ => r.positional v

def step (r : Reading) (token : Octets) : Except ArgumentError Reading :=
  if r.separated then r.positional token
  else match Token.ofOctets token with
    | .separator => .ok { r with separated := true }
    | .long name value => r.long name value
    | .short letters => r.short letters
    | .plain v => r.plain v

/-- At the end the workload must be there; the options have their defaults. -/
def finish (r : Reading) : Except ArgumentError Arguments := do
  let r ← r.settle
  match r.workload with
  | none => .error .workloadMissing
  | some workload => return {
      workload := workload
      buildTool := r.buildTool.getD (Path.ofString "cargo")
      targetBinary := r.targetBinary
      dryRun := r.dryRun
      logFormat := r.logFormat.getD .pretty }

end Reading

def parse (tokens : List Octets) : Except ArgumentError Arguments := do
  (← tokens.foldlM Reading.step .empty).finish

end ProfiledBuild.Arguments
