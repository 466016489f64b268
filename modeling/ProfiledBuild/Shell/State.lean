import ProfiledBuild.Host.Tools
import ProfiledBuild.Shell.Arithmetic
import ProfiledBuild.Shell.Parser

/-! The state of a running shell, and how words become fields. -/

namespace ProfiledBuild.Shell

/-- A job that was sent to the background and has come to its end there. It is kept in mind what
signal has ended it, until the shell waits for something. -/
structure Job where
  pid : Nat
  status : Nat
  killedBy : Option Nat
  deriving DecidableEq, Repr

/-- The options of a shell by their letters, and whether its `echo` leaves escapes alone. -/
structure Manner where
  letters : List Char
  plainEcho : Bool
  deriving DecidableEq, Repr

namespace Manner

def has (m : Manner) (letter : Char) : Bool := m.letters.contains letter

def switch (on : Bool) (letters : List Char) (m : Manner) : Manner :=
  let others := m.letters.filter (!letters.contains ·)
  { m with letters := if on then letters ++ others else others }

/-- All options, in their order. Some have no letter. -/
def options : List (String × Option Char) :=
  [("errexit", some 'e'), ("noglob", some 'f'), ("ignoreeof", some 'I'), ("interactive", some 'i'),
    ("monitor", some 'm'), ("noexec", some 'n'), ("stdin", some 's'), ("xtrace", some 'x'),
    ("verbose", some 'v'), ("vi", some 'V'), ("emacs", some 'E'), ("noclobber", some 'C'),
    ("allexport", some 'a'), ("notify", some 'b'), ("nounset", some 'u'),
    ("privileged", some 'p'), ("nolog", none), ("debug", none)]

def letters? : List Char := options.filterMap (·.2)

end Manner

/-- How far the arguments have been read for options: the number of the next argument, and how many
characters of the one before it are read if there are more. -/
structure OptionPlace where
  next : Nat
  offset : Option Nat
  deriving DecidableEq, Repr

def OptionPlace.start : OptionPlace := ⟨1, none⟩

/-- What a name stood for before a function made it its own. The name `-` stands for the options. -/
structure Hidden where
  name : Raw
  value : Option Raw
  isExported : Bool
  isFixed : Bool
  deriving DecidableEq, Repr

/-- A fault is found when a word is expanded or a variable set. What a function has hidden is kept
with the function. The caller is the command, or the file, that the text which is run belongs to. The
path is that of the directory as the shell has come to it. A subshell has the number of the shell that
it belongs to. -/
structure State where
  host : Host
  descriptors : Descriptors
  name : Raw
  caller : Option Raw
  args : List Raw
  values : List (Raw × Raw)
  exported : List Raw
  fixed : List Raw
  hidden : List (List Hidden)
  functions : List (Raw × Command)
  aliases : List (Raw × Raw)
  optionPlace : OptionPlace
  path : Raw
  status : Nat
  pid : Nat
  isSubshell : Bool
  depth : Nat
  traps : List (Nat × Raw)
  jobs : List Job
  lastJob : Option Nat
  manner : Manner
  guarded : Bool
  loops : Nat
  fault : Option String
  line : Nat

/-- How a command hands on: to the next one, out of a function or script, out of the shell because it
was told so or because it gives up, or out of loops. Nothing follows a command that goes on until the stage is cut off. -/
inductive Flow where
  | next
  | back
  | exit
  | giveUp
  | killed (signal : Nat)
  | cutOff
  | leave (levels : Nat)
  | again (levels : Nat)
  deriving DecidableEq, Repr

namespace State

def context (s : State) : Tools.Context := ⟨s.host, s.descriptors⟩

def withStatus (s : State) (status : Nat) : State := { s with status := status }

def write (s : State) (n : Nat) (text : Raw) : State :=
  { s with host := Tools.writeTo s.host s.descriptors n text }

def label (s : State) : String :=
  Tools.shown s.name ++ (if s.manner.plainEcho then ": line " else ": ") ++ toString s.line ++ ": " ++
    match s.caller with
    | some caller => Tools.shown caller ++ ": "
    | none => ""

def complain (s : State) (message : String) : State :=
  s.write 2 (Raw.ofString (s.label ++ message ++ "\n"))

def seen (s : State) : State :=
  if s.jobs.isEmpty then s else { s with jobs := s.jobs.map fun job => { job with killedBy := none } }

/-- The first fault counts. -/
def withFault (s : State) (why : String) : State := { s with fault := s.fault <|> some why }

def readOnly (name : Raw) : String := Tools.shown name ++ ": is read only"

def optionVariable : Raw := "OPTIND".toList

/-- The number of the next argument counts from anew if it is set by the script. -/
def set (s : State) (name value : Raw) : State :=
  if s.fixed.contains name then s.withFault (readOnly name)
  else if name = optionVariable ∧ (Raw.number? value).isNone then
    s.withFault ("Illegal number: " ++ Tools.shown value)
  else { s with
    values := (name, value) :: s.values.filter (·.1 ≠ name)
    exported := if s.manner.has 'a' then name :: s.exported.filter (· ≠ name) else s.exported
    optionPlace := if name = optionVariable then ⟨max 1 ((Raw.number? value).getD 1), none⟩
      else s.optionPlace }

def unset (s : State) (name : Raw) : State :=
  if s.fixed.contains name then s.withFault (readOnly name)
  else if name = optionVariable then s.withFault "Illegal number: "
  else { s with
    values := s.values.filter (·.1 ≠ name)
    exported := s.exported.filter (· ≠ name) }

def exportName (s : State) (name : Raw) : State :=
  { s with exported := name :: s.exported.filter (· ≠ name) }

def decimal (n : Nat) : Raw := (toString n).toList

def withValues (s : State) (values : List (Raw × Raw)) : State :=
  values.foldr
    (fun (name, value) s => if s.values.lookup name = some value then s else s.set name value) s

def kept (s : State) (name : Raw) : Hidden :=
  if name = ['-'] then ⟨name, some s.manner.letters, false, false⟩
  else ⟨name, s.values.lookup name, s.exported.contains name, s.fixed.contains name⟩

def back (s : State) (h : Hidden) : State :=
  if h.name = ['-'] then
    { s with manner := { s.manner with letters := h.value.getD [] } }
  else
    let others := s.values.filter (·.1 ≠ h.name)
    let exported := s.exported.filter (· ≠ h.name)
    let fixed := s.fixed.filter (· ≠ h.name)
    { s with
      values := (h.value.map fun value => (h.name, value)).toList ++ others
      exported := if h.isExported then h.name :: exported else exported
      fixed := if h.isFixed then h.name :: fixed else fixed }

def takeBack (s outer : State) (name : Raw) : State :=
  let others := s.values.filter (·.1 ≠ name)
  let exported := s.exported.filter (· ≠ name)
  { s with
    values := match outer.values.lookup name with
      | some value => (name, value) :: others
      | none => others
    exported := if outer.exported.contains name then name :: exported else exported }

/-- A subshell has no traps but for the signals that are to be ignored, and no jobs. -/
def forSubshell (s : State) : State :=
  { s with traps := s.traps.filter (·.2 = []), jobs := [], isSubshell := true }

def separators (s : State) : Raw := (s.values.lookup "IFS".toList).getD [' ', '\t', '\n']

def joinedArgs (s : State) : Raw := (s.separators.take 1).intercalate s.args

def flags (s : State) : Raw := Manner.letters?.reverse.filter s.manner.has

def parameter (s : State) (name : Raw) : Option Raw :=
  match name with
  | ['#'] => some (decimal s.args.length)
  | ['?'] => some (decimal s.status)
  | ['$'] => some (decimal s.pid)
  | ['@'] => some (Tools.spaced s.args)
  | ['*'] => some s.joinedArgs
  | ['-'] => some s.flags
  | ['!'] => s.lastJob.map decimal
  | name =>
    match Raw.number? name with
    | some 0 => some s.name
    | some (n + 1) => s.args[n]?
    | none => s.values.lookup name

def parentVariable : Raw := "PPID".toList

def parent (s : State) : Nat :=
  ((s.values.lookup parentVariable).bind Raw.number?).getD Host.driverPid

def searchPath (s : State) : Raw :=
  (s.values.lookup Host.pathVariable).getD Host.standardPath

def groupCount : Nat := 39

def groupOf (name : Raw) : Nat :=
  name.foldl (fun n c => n + c.toNat) (16 * (name.headD '\x00').toNat) % groupCount

def environment (s : State) : List (Raw × Raw) :=
  let shared := (s.values.filter fun (name, _) => s.exported.contains name).reverse
  shared.mergeSort fun a b => groupOf a.1 ≤ groupOf b.1

end State

/-- What a word expands to, before it is cut into fields. A split ends a field, which has to be
there unless the split is a blank, and a hold makes a field even if it stays empty. -/
inductive Mark where
  | char (c : Char) (quoted : Bool)
  | split (separator : Char)
  | hold
  deriving DecidableEq, Repr

def State.marks (s : State) (value : Raw) (quoted : Bool) : List Mark :=
  if quoted then .hold :: value.map (.char · true)
  else
    let separators := s.separators
    value.map fun c => if separators.contains c then .split c else .char c false

/-- The marks of all arguments: every argument is a field of its own. -/
def State.argumentMarks (s : State) (quoted : Bool) : List Mark :=
  [Mark.split ' '].intercalate (s.args.map (s.marks · quoted))

abbrev Field := List (Char × Bool)

def fieldsFrom (current : Option Field) : List Mark → List Field
  | [] => current.toList.map List.reverse
  | .split c :: rest =>
    let field := if isBlank c then current else some (current.getD [])
    field.toList.map List.reverse ++ fieldsFrom none rest
  | .hold :: rest => fieldsFrom (some (current.getD [])) rest
  | .char c q :: rest => fieldsFrom (some ((c, q) :: current.getD [])) rest

def fields (marks : List Mark) : List Field := fieldsFrom none marks

def joined (marks : List Mark) : Field :=
  marks.filterMap fun
    | .char c q => some (c, q)
    | .split c => some (c, true)
    | .hold => none

def plain (f : Field) : Raw := f.map (·.1)

end ProfiledBuild.Shell
