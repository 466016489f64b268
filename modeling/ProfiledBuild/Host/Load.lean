import ProfiledBuild.Host.Files

/-! Programs: how they are found, and what is run for a file that names its interpreter. -/

namespace ProfiledBuild

/-- A program that can be run: a tool, the name it is called by, and its arguments. -/
structure Image where
  tool : String
  name : Raw
  args : List Raw
  deriving DecidableEq, Repr

namespace Host

def isBlank (c : Char) : Bool := c = ' ' || c = '\t'

def headSize : Nat := 256

/-- The first line of a file after its mark. At the end of a file a zero ends it, before which blanks
stand for themselves. A line that is too long is cut off, but not in the name of the interpreter. -/
def markedLine? (rest : Raw) : Option Raw :=
  let bare (line : Raw) : Raw := (line.reverse.dropWhile isBlank).reverse
  let seen := rest.take (headSize - 2)
  let line := seen.takeWhile (· ≠ '\n')
  if line.length < seen.length && !line.contains '\x00' then some (bare line)
  else
    let kept := seen.take (headSize - 3)
    let isWhole := rest.length < headSize - 2
    let name := (kept.dropWhile isBlank).dropWhile fun c => !isBlank c && c ≠ '\x00'
    if isWhole then some (kept ++ ['\x00'])
    else if name = [] then none
    else some (bare kept)

/-- The interpreter that the first line of a file names, with the one argument it may have. -/
def interpreter? : Raw → Option (Raw × List Raw)
  | '#' :: '!' :: rest => do
    let line ← markedLine? rest
    let text := line.takeWhile (· ≠ '\x00')
    let named := text.dropWhile isBlank
    let name := named.takeWhile fun c => !isBlank c
    let argument := (named.drop name.length).dropWhile isBlank
    if name = [] && text.length = line.length then none
    else some (name, if argument = [] then [] else [argument])
  | _ => none

def longestArgument : Nat := 131072

/-- The program in a file. An interpreter may itself be interpreted, up to a limit. -/
def load (h : Host) (path name : Raw) (args : List Raw) (levels : Nat) :
    Except StartError Image := do
  match ← h.lookup path with
  | .tool tool =>
    if levels = 0 then throw .tooManyLevels
    else if args.any fun a => longestArgument ≤ a.length then throw .argumentsTooLong
    else return ⟨tool, name, args⟩
  | .file contents true =>
    match levels with
    | 0 => throw .tooManyLevels
    | levels + 1 =>
      if args.any fun a => longestArgument ≤ a.length then throw .argumentsTooLong
      match interpreter? contents with
      | none => throw .notExecutable
      | some (interpreter, argument) =>
        h.load interpreter interpreter (argument ++ path :: args) levels
  | _ => throw .denied

def interpreterLevels : Nat := 6

/-- Tries the directories of a search path. What cannot be used is passed over, but remembered if
access was denied. -/
def search (h : Host) (name : Raw) (args : List Raw) (denied : Bool) :
    List Raw → Except StartError Image
  | [] => .error (if denied then .denied else .notFound)
  | directory :: rest =>
    let path := if directory = [] then name else directory ++ '/' :: name
    match h.load path name args interpreterLevels with
    | .ok image => .ok image
    | .error e =>
      if e = .denied then h.search name args true rest
      else if e = .notFound ∨ e = .notDirectory then h.search name args denied rest
      else .error e

def standardPath : Raw := "/usr/local/sbin:/usr/local/bin:/usr/sbin:/usr/bin:/sbin:/bin".toList

def pathVariable : Raw := "PATH".toList

/-- The program that a name stands for. A name without a slash is searched for. -/
def find (h : Host) (searchPath : Raw) (name : Raw) (args : List Raw) :
    Except StartError Image :=
  if name = [] then .error .notFound
  else if name.contains '/' then h.load name name args interpreterLevels
  else if 255 < name.length then .error .nameTooLong
  else h.search name args false (Raw.splitOn ':' searchPath)

end Host

end ProfiledBuild
