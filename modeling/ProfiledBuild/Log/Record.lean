import ProfiledBuild.Json.Printer

/-! Log records. A record has a level, the target that it comes from, a message and fields, and
lies inside the spans that were open when it was written. Records share the error stream with the
processes of the stages. -/

namespace ProfiledBuild.Log

/-- From the most verbose level to the most severe one. -/
inductive Level where
  | trace
  | debug
  | info
  | warn
  | error
  deriving DecidableEq, Repr, Inhabited

namespace Level

def all : List Level := [.trace, .debug, .info, .warn, .error]

def name : Level → String
  | .trace => "TRACE"
  | .debug => "DEBUG"
  | .info => "INFO"
  | .warn => "WARN"
  | .error => "ERROR"

def severity : Level → Nat
  | .trace => 0
  | .debug => 1
  | .info => 2
  | .warn => 3
  | .error => 4

end Level

/-- The value of a field. A text that is shown stands as it is, a plain text in quotes. -/
inductive Value where
  | shown (text : String)
  | plain (text : String)
  | int (value : Int)
  | float (value : Float)
  | bool (value : Bool)
  deriving DecidableEq

def Value.toJson : Value → Json
  | .shown text => .string text
  | .plain text => .string text
  | .int n => Json.int n
  | .float x => Json.float x
  | .bool b => .bool b

def Value.text : Value → String
  | .shown text => text
  | .plain text => text
  | .int n => toString n
  | .float x => Json.floatText x
  | .bool b => if b then "true" else "false"

abbrev Fields := List (String × Value)

def Fields.toJson (fields : Fields) : List (String × Json) :=
  fields.map fun (key, value) => (key, value.toJson)

structure Span where
  level : Level
  target : String
  name : String
  fields : Fields
  deriving DecidableEq

/-- The spans are listed from the outermost one inwards. -/
structure Record where
  level : Level
  target : String
  message : String
  fields : Fields
  spans : List Span
  deriving DecidableEq

namespace Record

def ofMessage (level : Level) (target message : String) (fields : Fields) : Record :=
  ⟨level, target, message, fields, []⟩

/-- The names of what the record holds; its message is one of them. -/
def fieldNames (r : Record) : List String := "message" :: r.fields.map (·.1)

def inside (span : Span) (r : Record) : Record := { r with spans := span :: r.spans }

end Record

/-- What reaches the error stream: a record, or octets that a process wrote there. -/
inductive Entry where
  | record (record : Record)
  | raw (octets : Octets)
  deriving DecidableEq

namespace Entry

def record? : Entry → Option Record
  | .record r => some r
  | .raw _ => none

def inside (span : Span) : Entry → Entry
  | .record r => .record (r.inside span)
  | .raw s => .raw s

end Entry

end ProfiledBuild.Log
