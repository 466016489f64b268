import ProfiledBuild.Arguments.Basic
import ProfiledBuild.Log.Record
import ProfiledBuild.Text.Quoted
import ProfiledBuild.Time.Timestamp

/-! Log records as lines: for people, or as JSON objects. -/

namespace ProfiledBuild.Log

def Value.display : Value → String
  | .plain text => Quoted.text text
  | value => value.text

def Fields.display (fields : Fields) : List String :=
  fields.map fun (key, value) => key ++ "=" ++ value.display

def hexOctet (n : Nat) : String :=
  let digits := Nat.toDigits 16 n
  String.ofList (if digits.length < 2 then '0' :: digits else digits)

/-- Characters that could steer a terminal are spelled out in messages. -/
def shield (c : Char) : String :=
  if c = '\x1b' || c = '\x07' || c = '\x08' || c = '\x0c' || c = '\x7f' then
    "\\x" ++ hexOctet c.toNat
  else if 0x80 ≤ c.toNat ∧ c.toNat ≤ 0x9F then "\\u\x7b" ++ hexOctet c.toNat ++ "\x7d"
  else c.toString

def padLeft (width : Nat) (s : String) : String :=
  String.ofList (List.replicate (width - s.length) ' ') ++ s

def Span.display (s : Span) : String :=
  if s.fields = [] then s.name ++ ":"
  else s.name ++ "\x7b" ++ " ".intercalate s.fields.display ++ "\x7d:"

def spansDisplay (spans : List Span) : String :=
  if spans = [] then "" else String.join (spans.map Span.display) ++ " "

/-- The time, the level, the spans from the outermost one inwards, the message and the fields. -/
def Record.pretty (now : Timestamp) (r : Record) : String :=
  now.microsecondText ++ " " ++ padLeft 5 r.level.name ++ " " ++
    spansDisplay r.spans ++
    " ".intercalate (String.join (r.message.toList.map shield) :: r.fields.display) ++ "\n"

def Span.toJson (s : Span) : Json := Json.ofFields (s.fields.toJson ++ [("name", .string s.name)])

/-- The innermost span is given once more on its own. -/
def Record.toJson (now : Timestamp) (r : Record) : Json :=
  .object <|
    [("timestamp", .string now.microsecondText), ("level", .string r.level.name),
      ("fields", Json.ofFields (("message", .string r.message) :: r.fields.toJson))] ++
    match r.spans.getLast? with
    | none => []
    | some innermost =>
      [("span", innermost.toJson), ("spans", .array (r.spans.map Span.toJson))]

def Record.line (format : LogFormat) (now : Timestamp) (r : Record) : String :=
  match format with
  | .pretty => r.pretty now
  | .json => (r.toJson now).text ++ "\n"

def Entry.octets (format : LogFormat) (now : Timestamp) : Entry → Octets
  | .record r => Utf8.encode (r.line format now)
  | .raw s => s

end ProfiledBuild.Log
