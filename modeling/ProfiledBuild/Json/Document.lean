import ProfiledBuild.Json.Basic

/-! JSON text as far as it can be read. A document keeps a fault at the place where it stands, so
that whoever walks the document in order meets first what stands first: a wrong value before a
later fault, or a fault before a later wrong value. Entries keep their order and their repeats. -/

namespace ProfiledBuild.Json

inductive Fault where
  | malformed
  | truncated
  deriving DecidableEq, Repr

inductive Start where
  | nothing
  | quote
  | other
  deriving DecidableEq, Repr

/-- `broken` is a place where no value can be read; stepping over it without reading may meet
another fault than reading it. A number or string can be whole as a token and still have no
value. The `stop` of a container is the fault after its last member, if it is not closed. -/
inductive Document where
  | null
  | bool (value : Bool)
  | number (value : Except Fault Number)
  | string (value : Except Fault String)
  | array (items : List Document) (stop : Option Fault)
  | object (entries : List (Document × Document)) (stop : Option Fault)
  | broken (start : Start) (read skip : Fault)

namespace Document

instance : Inhabited Document := ⟨.null⟩

/-- The name that a key spells. Only a string is a key. -/
def key : Document → Except Fault String
  | .string s => s
  | .broken .nothing fault _ => .error fault
  | .broken .quote fault _ => .error fault
  | _ => .error .malformed

def skipKey : Document → Except Fault Unit
  | .string _ => .ok ()
  | .broken .nothing _ fault => .error fault
  | .broken .quote _ fault => .error fault
  | _ => .error .malformed

mutual

def skip : Document → Except Fault Unit
  | .array items stop => skipItems items stop
  | .object entries stop => skipEntries entries stop
  | .broken _ _ fault => .error fault
  | _ => .ok ()

def skipItems : List Document → Option Fault → Except Fault Unit
  | [], none => .ok ()
  | [], some fault => .error fault
  | d :: rest, stop => do skip d; skipItems rest stop

def skipEntries : List (Document × Document) → Option Fault → Except Fault Unit
  | [], none => .ok ()
  | [], some fault => .error fault
  | (k, d) :: rest, stop => do skipKey k; skip d; skipEntries rest stop

end

/-- How deep containers may nest where values are read: the limit counts one more than may be
open at once. -/
def depthLimit : Nat := 128

/-- What is left of the limit inside one more container. -/
def descend (depth : Nat) : Except Fault Nat :=
  if depth ≤ 1 then .error .malformed else .ok (depth - 1)

mutual

/-- The value of a document. Of entries with one key the last one stays. -/
def value (depth : Nat) : Document → Except Fault Json
  | .null => .ok .null
  | .bool b => .ok (.bool b)
  | .number n => n.map .number
  | .string s => s.map .string
  | .array items stop => do
    let depth ← descend depth
    return .array (← itemValues depth items stop)
  | .object entries stop => do
    let depth ← descend depth
    return Json.ofFields (← entryValues depth entries stop)
  | .broken _ fault _ => .error fault

def itemValues (depth : Nat) : List Document → Option Fault → Except Fault (List Json)
  | [], none => .ok []
  | [], some fault => .error fault
  | d :: rest, stop => do
    let v ← value depth d
    return v :: (← itemValues depth rest stop)

def entryValues (depth : Nat) :
    List (Document × Document) → Option Fault → Except Fault (List (String × Json))
  | [], none => .ok []
  | [], some fault => .error fault
  | (k, d) :: rest, stop => do
    let k ← k.key
    let v ← value depth d
    return (k, v) :: (← entryValues depth rest stop)

end

mutual

def ofJson : Json → Document
  | .null => .null
  | .bool b => .bool b
  | .number n => .number (.ok n)
  | .string s => .string (.ok s)
  | .array items => .array (ofItems items) none
  | .object fields => .object (ofFields fields) none

def ofItems : List Json → List Document
  | [] => []
  | v :: rest => ofJson v :: ofItems rest

def ofFields : List (String × Json) → List (Document × Document)
  | [] => []
  | (k, v) :: rest => (.string (.ok k), ofJson v) :: ofFields rest

end

end Document

end ProfiledBuild.Json
