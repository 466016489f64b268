import ProfiledBuild.Json.Token

/-! Reading JSON text into a document. The text of a value is read in one pass; once it breaks,
no rest is left and every container around the break ends there. -/

namespace ProfiledBuild.Json

def isBlank (c : Char) : Bool := c = ' ' || c = '\n' || c = '\t' || c = '\r'

def skipBlanks (s : List Char) : List Char := s.dropWhile isBlank

namespace Document

/-- A document and the text after it, if its own text is whole. -/
abbrev Reading := Document × Option (List Char)

/-- Nothing can be read where something stands. -/
def unreadable (fault : Fault) : Reading := (.broken .other fault fault, none)

def word : List Char → Document → List Char → Reading
  | [], d, s => (d, some s)
  | _ :: _, _, [] => unreadable .truncated
  | e :: expected, d, c :: s => if c = e then word expected d s else unreadable .malformed

def ofString : Token (List Char) → Reading
  | .whole value rest => (.string (value.map String.ofList), some rest)
  | .broken read skip => (.broken .quote read skip, none)

def ofNumber : Token Number → Reading
  | .whole value rest => (.number value, some rest)
  | .broken read skip => (.broken .other read skip, none)

mutual

/-- One value. The fuel bounds the containers and members still to come. -/
def read : Nat → List Char → Reading
  | 0, _ => unreadable .malformed
  | fuel + 1, s =>
    match skipBlanks s with
    | [] => (.broken .nothing .truncated .truncated, none)
    | 'n' :: s => word ['u', 'l', 'l'] .null s
    | 't' :: s => word ['r', 'u', 'e'] (.bool true) s
    | 'f' :: s => word ['a', 'l', 's', 'e'] (.bool false) s
    | '"' :: s => ofString (stringBody s)
    | '-' :: s => ofNumber (unsignedNumber true s)
    | '[' :: s =>
      match skipBlanks s with
      | ']' :: rest => (.array [] none, some rest)
      | [] => (.array [] (some .truncated), none)
      | s =>
        let (items, stop, rest) := readItems fuel s
        (.array items stop, rest)
    | '\x7b' :: s =>
      match skipBlanks s with
      | '\x7d' :: rest => (.object [] none, some rest)
      | [] => (.object [] (some .truncated), none)
      | s =>
        let (entries, stop, rest) := readEntries fuel s
        (.object entries stop, rest)
    | c :: s =>
      if (digit? c).isSome then ofNumber (unsignedNumber false (c :: s))
      else unreadable .malformed

/-- The members of an array from the next one on. After a comma there is always a member, if
only a broken one. -/
def readItems : Nat → List Char → List Document × Option Fault × Option (List Char)
  | 0, _ => ([], some .malformed, none)
  | fuel + 1, s =>
    match read fuel s with
    | (item, none) => ([item], none, none)
    | (item, some s) =>
      match skipBlanks s with
      | ']' :: rest => ([item], none, some rest)
      | ',' :: s =>
        let (items, stop, rest) := readItems fuel s
        (item :: items, stop, rest)
      | s => ([item], some (.before s), none)

/-- The entries of an object from the next one on. A value that is never reached is broken like
the text before it. -/
def readEntries :
    Nat → List Char → List (Document × Document) × Option Fault × Option (List Char)
  | 0, _ => ([], some .malformed, none)
  | fuel + 1, s =>
    match read fuel s with
    | (key, none) => ([(key, .broken .other .malformed .malformed)], none, none)
    | (key, some s) =>
      match skipBlanks s with
      | ':' :: s =>
        match read fuel s with
        | (d, none) => ([(key, d)], none, none)
        | (d, some s) =>
          match skipBlanks s with
          | '\x7d' :: rest => ([(key, d)], none, some rest)
          | ',' :: s =>
            let (entries, stop, rest) := readEntries fuel s
            ((key, d) :: entries, stop, rest)
          | s => ([(key, d)], some (.before s), none)
      | s => ([(key, .broken .nothing (.before s) (.before s))], none, none)

end

/-- A whole text: the document at its front, and whether anything but blanks follows. -/
structure Text where
  document : Document
  trailing : Bool

/-- Each level and each member uses up at least one character. -/
def Text.ofChars (s : List Char) : Text :=
  match read (2 * s.length + 2) s with
  | (d, none) => ⟨d, false⟩
  | (d, some rest) => ⟨d, skipBlanks rest ≠ []⟩

def Text.ofString (s : String) : Text := .ofChars s.toList

end Document

def ofString? (s : String) : Option Json :=
  let t := Document.Text.ofString s
  if t.trailing then none else (t.document.value Document.depthLimit).toOption

end ProfiledBuild.Json
