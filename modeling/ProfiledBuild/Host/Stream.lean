import ProfiledBuild.Host.Load

/-! What processes read and write: descriptors lead to streams, files or devices. -/

namespace ProfiledBuild

inductive Channel where
  | stream (id : Nat)
  | cursor (id : Nat)
  | device (device : Device)
  | closed
  deriving DecidableEq, Repr

def Channel.nowhere : Channel := .device .null

abbrev Descriptors := List (Nat × Channel)

namespace Descriptors

def standard : Descriptors := [(0, .stream 0), (1, .stream 1), (2, .stream 2)]

def channel (d : Descriptors) (n : Nat) : Channel := (d.lookup n).getD .closed

def close (d : Descriptors) (n : Nat) : Descriptors := d.filter (·.1 ≠ n)

def set (d : Descriptors) (n : Nat) (c : Channel) : Descriptors :=
  (n, c) :: d.filter (·.1 ≠ n)

end Descriptors

namespace Host

def setCursor (h : Host) (id : Nat) (c : Cursor) : Host :=
  { h with cursors := (id, c) :: h.cursors.filter (·.1 ≠ id) }

def withFault (h : Host) (f : WriteFault) : Host := { h with fault := h.fault <|> some f }

/-- A text with another one written over it from some place on. A gap is filled with zeros. -/
def overwritten (before text : Raw) (offset : Nat) : Raw :=
  before.take offset ++ List.replicate (offset - before.length) '\x00' ++ text ++
    before.drop (offset + text.length)

def writeAt (h : Host) (id : Nat) (c : Cursor) (text : Raw) : Host :=
  match h.node? c.place with
  | some (.file contents _) =>
    let offset := if c.appends then contents.length else c.offset
    (h.writeFile c.place (overwritten contents text offset)).setCursor id
      { c with offset := offset + text.length }
  | _ => h

def write (h : Host) (c : Channel) (text : Raw) : Host :=
  if text = [] then h
  else match c with
    | .stream id =>
      let q := ((h.streams.lookup id).getD (.ofText [])).push text
      let h := h.setQueue id q
      if q.isBroken then h.withFault .noReader else h
    | .cursor id =>
      match h.cursors.lookup id with
      | some c => h.writeAt id c text
      | none => h
    | .device .full => h.withFault .noSpace
    | .device _ => h
    | .closed => h.withFault .notOpen

/-- What a device gives to one who takes it all: of something without end a good deal. -/
def deviceText : Device → Raw
  | .null => []
  | _ => List.replicate 1048576 '\x00'

def unread (h : Host) : Channel → Raw
  | .stream id => h.stream id
  | .cursor id =>
    match h.cursors.lookup id with
    | some c =>
      match h.node? c.place with
      | some (.file contents _) => contents.drop c.offset
      | _ => []
    | none => []
  | .device d => deviceText d
  | .closed => []

/-- Leaves a rest of what there was to read. A reader may have come to the end. -/
def leave (h : Host) (c : Channel) (taken : Nat) (rest : Raw) (atEnd : Bool) : Host :=
  match c with
  | .stream id => h.setQueue id (((h.streams.lookup id).getD (.ofText [])).leave rest atEnd)
  | .cursor id =>
    match h.cursors.lookup id with
    | some c => h.setCursor id { c with offset := c.offset + taken }
    | none => h
  | _ => h

def readAll (h : Host) (c : Channel) : Raw × Host :=
  let text := h.unread c
  (text, h.leave c text.length [] true)

def readLine (h : Host) (c : Channel) : (Raw × Bool) × Host :=
  let text := h.unread c
  let line := text.takeWhile (· ≠ '\n')
  match text.drop line.length with
  | [] => ((line, false), h.leave c line.length [] true)
  | _ :: rest => ((line, true), h.leave c (line.length + 1) rest false)

end Host

/-- How a process ends. One that goes on until the driver ends the stage is cut off. -/
inductive Ending where
  | exited (status : Nat)
  | killed (signal : Nat)
  | cutOff
  deriving DecidableEq, Repr

def Ending.waitStatus : Ending → Int32
  | .exited status => Int32.ofNat (status % 256 * 256)
  | .killed signal => Int32.ofNat signal
  | .cutOff => 9

namespace Tools

structure Context where
  host : Host
  descriptors : Descriptors
  deriving DecidableEq, Repr

/-- Writes to a descriptor. What is lost counts only if it was meant for the output, or if there is
nobody to read it. -/
def writeTo (h : Host) (d : Descriptors) (n : Nat) (text : Raw) : Host :=
  let after := h.write (d.channel n) text
  if n = 1 || after.fault = some .noReader then after else { after with fault := h.fault }

namespace Context

def write (x : Context) (n : Nat) (text : Raw) : Context :=
  { x with host := writeTo x.host x.descriptors n text }

def say (x : Context) (text : String) : Context := x.write 2 (Raw.ofString (text ++ "\n"))

def readAll (x : Context) : Raw × Context :=
  let (text, host) := x.host.readAll (x.descriptors.channel 0)
  (text, { x with host := host })

end Context

abbrev Tool := List Raw → Context → Ending × Context

def shown (r : Raw) : String := Utf8.lossy (Raw.toOctets r)

def sayHelp (tool : String) (x : Context) : Context :=
  x.say ("Try '" ++ tool ++ " --help' for more information.")

def missingFile (e : StartError) : String :=
  if e = .denied then "Permission denied"
  else if e = .notDirectory then "Not a directory"
  else if e = .nameTooLong then "File name too long"
  else if e = .tooManyLevels then "Too many levels of symbolic links"
  else "No such file or directory"

/-- Does the same for every operand. The status is that of a failure if there is one. -/
def forEach (f : Raw → Context → Except String Context) (tool : String) :
    List Raw → Nat → Context → Ending × Context
  | [], status, x => (.exited status, x)
  | a :: rest, status, x =>
    match f a x with
    | .ok x => forEach f tool rest status x
    | .error why => forEach f tool rest 1 (x.say (tool ++ ": " ++ why))

end Tools

end ProfiledBuild
