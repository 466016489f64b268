import ProfiledBuild.Json.Reader
import ProfiledBuild.Json.Printer
import ProfiledBuild.Text.Quoted

/-! Decoding documents into typed values. A document is walked in the order of its text, so of
several things that are wrong the first one is reported. -/

namespace ProfiledBuild.Json

/-- What stands where something else is wanted. Containers are known by their opening bracket. -/
inductive Found where
  | null
  | bool (value : Bool)
  | number (value : Number)
  | string (value : String)
  | array
  | object
  deriving DecidableEq

def Found.text : Found → String
  | .null => "null"
  | .bool value => "boolean `" ++ (if value then "true" else "false") ++ "`"
  | .number (.int n) => "integer `" ++ toString n ++ "`"
  | .number (.float x) => "floating point `" ++ floatText x ++ "`"
  | .string s => "string " ++ Quoted.text s
  | .array => "sequence"
  | .object => "map"

inductive Mismatch where
  | kind (found : Found) (expected : String)
  | range (value : Int) (expected : String)
  | variant (name : String) (known : List String)
  | length (actual : Nat) (expected : String)
  | missing (field : String)
  | duplicate (field : String)
  | unreadable (reason : String)
  deriving DecidableEq

def choices (known : List String) : String :=
  match known.map (fun name => "`" ++ name ++ "`") with
  | [a, b] => a ++ " or " ++ b
  | [a] => a
  | names => "one of " ++ ", ".intercalate names

def Mismatch.message : Mismatch → String
  | .kind found expected => "invalid type: " ++ found.text ++ ", expected " ++ expected
  | .range value expected =>
    "invalid value: integer `" ++ toString value ++ "`, expected " ++ expected
  | .variant name known => "unknown variant `" ++ name ++ "`, expected " ++ choices known
  | .length n expected => "invalid length " ++ toString n ++ ", expected " ++ expected
  | .missing field => "missing field `" ++ field ++ "`"
  | .duplicate field => "duplicate field `" ++ field ++ "`"
  | .unreadable reason => reason

inductive DecodeError where
  | fault (fault : Fault)
  | mismatch (mismatch : Mismatch)
  deriving DecidableEq

abbrev Decoded (α : Type) := Except DecodeError α

/-- A decoder knows how many levels of containers it may still open. -/
abbrev Decoder (α : Type) := Nat → Document → Decoded α

namespace Decode

def fault (f : Fault) : Decoded α := .error (.fault f)

def mismatch (m : Mismatch) : Decoded α := .error (.mismatch m)

def sound : Except Fault α → Decoded α
  | .ok a => .ok a
  | .error f => fault f

def found : Document → Except Fault Found
  | .null => .ok .null
  | .bool b => .ok (.bool b)
  | .number n => n.map .number
  | .string s => s.map .string
  | .array .. => .ok .array
  | .object .. => .ok .object
  | .broken _ f _ => .error f

def unexpected (expected : String) (d : Document) : Decoded α := do
  mismatch (.kind (← sound (found d)) expected)

def string (expected : String) : Decoder String
  | _, .string s => sound s
  | _, d => unexpected expected d

def int32 : Decoder Int32
  | _, .number (.ok (.int n)) =>
    if -2147483648 ≤ n ∧ n ≤ 2147483647 then .ok (Int32.ofInt n)
    else mismatch (.range n "i32")
  | _, d => unexpected "i32" d

def optional (decode : Decoder α) : Decoder (Option α)
  | _, .null => .ok none
  | depth, d => do return some (← decode depth d)

def items (decode : Document → Decoded α) : List Document → Option Fault → Decoded (List α)
  | [], none => .ok []
  | [], some f => fault f
  | d :: rest, stop => do
    let a ← decode d
    return a :: (← items decode rest stop)

def list (decode : Decoder α) : Decoder (List α)
  | depth, .array ds stop => do
    let depth ← sound (Document.descend depth)
    items (decode depth) ds stop
  | _, d => unexpected "a sequence" d

def fields : Decoder Fields
  | depth, .object entries stop => do
    let depth ← sound (Document.descend depth)
    return Fields.ofList (← sound (Document.entryValues depth entries stop))
  | _, d => unexpected "a map" d

def choose (known : List (String × α)) (name : String) : Decoded α :=
  match known.lookup name with
  | some a => .ok a
  | none => mismatch (.variant name (known.map (·.1)))

def name (known : List (String × α)) : Document → Decoded α
  | .string s => do choose known (← sound s)
  | d => unexpected "variant identifier" d

def unit : Document → Decoded Unit
  | .null => .ok ()
  | d => unexpected "unit" d

def close : List α → Option Fault → Decoded Unit
  | [], none => .ok ()
  | [], some f => fault f
  | _ :: _, _ => fault .malformed

/-- One of several names: a string, or an object whose one key is the name and whose value is
`null`. -/
def variant (known : List (String × α)) : Decoder α
  | _, .string s => do choose known (← sound s)
  | depth, .object entries stop => do
    let _ ← sound (Document.descend depth)
    match entries, stop with
    | [], none => fault .malformed
    | [], some f => fault f
    | (k, d) :: rest, stop => do
      let a ← choose known (← sound k.key)
      unit d
      close rest stop
      return a
  | _, .broken .nothing f _ => fault f
  | _, .broken .quote f _ => fault f
  | _, _ => fault .malformed

/-- How a record takes its fields: `put` yields nothing for a key that is no field of it. -/
structure Keyed (ρ : Type) where
  put : ρ → String → Option (Document → Decoded ρ)

/-- The entries of an object, one after another. What is no field is stepped over. -/
def entries (keyed : Keyed ρ) : ρ → List (Document × Document) → Option Fault → Decoded ρ
  | r, [], none => .ok r
  | _, [], some f => fault f
  | r, (k, d) :: rest, stop => do
    let key ← sound k.key
    match keyed.put r key with
    | some take => do entries keyed (← take d) rest stop
    | none => do
      sound d.skip
      entries keyed r rest stop

/-- A field that may be given once. -/
def once (field : String) (sofar : Option α) (decode : Document → Decoded α) (d : Document) :
    Decoded α :=
  match sofar with
  | some _ => mismatch (.duplicate field)
  | none => decode d

def required (field : String) : Option α → Decoded α
  | some a => .ok a
  | none => mismatch (.missing field)

def element (expected : String) (index : Nat) (decode : Document → Decoded α)
    (ds : List Document) (stop : Option Fault) : Decoded (α × List Document) :=
  match ds, stop with
  | [], none => mismatch (.length index expected)
  | [], some f => fault f
  | d :: rest, _ => do return (← decode d, rest)

/-- The next element of a record written as an array, if it is still there. -/
def elementOr (default : α) (decode : Document → Decoded α) (ds : List Document)
    (stop : Option Fault) : Decoded (α × List Document) :=
  match ds, stop with
  | [], none => .ok (default, [])
  | [], some f => fault f
  | d :: rest, _ => do return (← decode d, rest)

def text (decode : Decoder α) (t : Document.Text) : Decoded α := do
  let a ← decode Document.depthLimit t.document
  if t.trailing then fault .malformed else return a

end Decode

end ProfiledBuild.Json
