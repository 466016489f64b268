import ProfiledBuild.Text.Utf8

/-! Texts for terminals. A control sequence steers the terminal and is not shown: it starts with an
escape character and goes on in one of several ways. Texts are read octet by octet. -/

namespace ProfiledBuild.Terminal

/-- Where a text is between control sequences. A sequence of parameters ends with a letter, a command
with a bell, and a message for a device with an end mark of its own. -/
inductive State where
  | ground
  | escape
  | selector
  | parameters
  | command
  | message
  deriving DecidableEq, Repr

def isBlankControl (b : UInt8) : Bool := b = 0x09 || b = 0x0A || b = 0x0C || b = 0x0D

def isControl (b : UInt8) : Bool := b < 0x20

def cancels (b : UInt8) : Bool := b = 0x18 || b = 0x1A

def escapeMark : UInt8 := 0x1B
def bell : UInt8 := 0x07
def messageEnd : UInt8 := 0x9C

def afterEscape (b : UInt8) : State :=
  if b = 0x5B then .parameters
  else if b = 0x5D then .command
  else if b = 0x50 || b = 0x58 || b = 0x5E || b = 0x5F then .message
  else if 0x20 ≤ b && b < 0x30 then .selector
  else if 0x30 ≤ b && b < 0x7F then .ground
  else .escape

def next (s : State) (b : UInt8) : State :=
  if cancels b then .ground
  else if b = escapeMark then .escape
  else match s with
    | .ground => .ground
    | .escape => afterEscape b
    | .selector => if 0x30 ≤ b && b < 0x7F then .ground else .selector
    | .parameters => if 0x40 ≤ b && b < 0x7F then .ground else .parameters
    | .command => if b = bell then .ground else .command
    | .message => if b = messageEnd then .ground else .message

/-- Blanks are shown inside of sequences too, but not inside of what is meant for a device. -/
def isShown (s : State) (b : UInt8) : Bool :=
  if isControl b then isBlankControl b && s ≠ .command && s ≠ .message
  else s = .ground && (b < 0x7F || (0xC2 ≤ b && b ≤ 0xF4))

def isContinuation (b : UInt8) : Bool := 0x80 ≤ b && b < 0xC0

/-- What is shown of a text. An octet that goes on with a character is shown wherever it stands, and
whatever is shown ends a sequence. -/
def shownFrom (s : State) : Octets → Octets
  | [] => []
  | b :: rest =>
    if isContinuation b || isShown s b then b :: shownFrom .ground rest
    else shownFrom (next s b) rest

def shown (s : String) : String := Utf8.lossy (shownFrom .ground (Utf8.encode s))

/-- What is shown of a stream. The rest of a character is shown with its start and only with it. A
sequence may be interrupted by blanks and what follows them; it goes on where the next control
character stands. -/
def streamedFrom (s : State) (shows : Bool) (pending : Nat) : Octets → Octets
  | [] => []
  | b :: rest =>
    if pending ≠ 0 then b :: streamedFrom .ground true (pending - 1) rest
    else if shows then
      if isShown .ground b then b :: streamedFrom s true (Utf8.following b) rest
      else
        let s := if cancels b || b = escapeMark then next .ground b else s
        streamedFrom (next s b) false 0 rest
    else if isShown s b then b :: streamedFrom s true (Utf8.following b) rest
    else streamedFrom (next s b) false 0 rest

def streamed (s : Octets) : Octets := streamedFrom .ground true 0 s

end ProfiledBuild.Terminal
