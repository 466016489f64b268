import ProfiledBuild.Host.Pattern
import ProfiledBuild.Shell.State

/-! Words that stand for names of files: homes, and patterns that names match. -/

namespace ProfiledBuild.Shell

namespace State

def home? (s : State) (user : Raw) : Option Raw :=
  if user = [] then s.values.lookup "HOME".toList
  else if user = "root".toList then some "/root".toList
  else none

/-- The home at the front of a text, which goes up to a slash, and what follows it. If there is more
of the word than the text, the user's name has to end in the text. -/
def homeAt? (s : State) (more : Bool) : Raw → Option (Raw × Raw)
  | '~' :: rest =>
    let user := rest.takeWhile (· ≠ '/')
    if more && user.length = rest.length then none
    else (s.home? user).map fun home => (home, rest.drop user.length)
  | _ => none

/-- A text with the home at its front put in, where nothing more is done with it. -/
def withHome (s : State) (more : Bool) (text : Raw) : List Part :=
  match s.homeAt? more text with
  | some (home, rest) => [.text home (home ≠ []), .text rest false]
  | none => [.text text false]

def wordWithHome (s : State) : Word → Word
  | .text text false :: rest => s.withHome (!rest.isEmpty) text ++ rest
  | w => w

/-- In a value a home may stand after every colon, too. -/
def pieceWithHomes (s : State) (atStart more : Bool) (text : Raw) : List Part :=
  let pieces := (Raw.splitOn ':' text).zipIdx
  let last := pieces.length - 1
  pieces.flatMap fun (piece, i) =>
    (if i = 0 then [] else [Part.text [':'] false]) ++
      if i = 0 && !atStart then [.text piece false]
      else s.withHome (more && i = last) piece

def valueWithHomes (s : State) : Bool → Word → Word
  | _, [] => []
  | atStart, .text text false :: rest =>
    s.pieceWithHomes atStart (!rest.isEmpty) text ++ s.valueWithHomes false rest
  | _, part :: rest => part :: s.valueWithHomes false rest

end State

def pathParts (f : Field) : List Field :=
  f.foldr
    (fun c parts =>
      if c.1 = '/' then [] :: parts else (c :: parts.headD []) :: parts.tail)
    [[]]

/-- The names in a place that a pattern matches. Those that start with a point are matched by
patterns that do so, too, and so are the place itself and the one above it. -/
def matching (h : Host) (place : List Raw) (pattern : Field) : List Raw :=
  let isHidden := (plain pattern).head? = some '.'
  let names := if isHidden then ['.'] :: ['.', '.'] :: h.allNamesIn place else h.namesIn place
  names.filter (Pattern.matchesName pattern)

/-- The paths that the parts of a pattern match behind a path that is certain. -/
def pathsFrom (h : Host) (start : Raw) : List Field → List Raw
  | [] => []
  | [part] =>
    if Pattern.isSpecial part then
      ((h.place (if start = [] then ['.'] else start)).toOption.elim []
        (matching h · part)).map (start ++ ·)
    else
      let path := start ++ plain part
      if (h.lookupLink (if path = [] then ['.'] else path)).toOption.isSome then [path] else []
  | part :: rest =>
    if Pattern.isSpecial part then
      let names := (h.place (if start = [] then ['.'] else start)).toOption.elim []
        (matching h · part)
      names.flatMap fun name =>
        if h.lookup (start ++ name) matches .ok .directory then
          pathsFrom h (start ++ name ++ ['/']) rest
        else []
    else pathsFrom h (start ++ plain part ++ ['/']) rest

/-- A field with special characters stands for the paths that it matches, if there are any. -/
def globbed (h : Host) (f : Field) : List Raw :=
  if !Pattern.isSpecial f then [plain f]
  else match pathsFrom h [] (pathParts f) with
    | [] => [plain f]
    | paths => paths.mergeSort fun a b => !(b < a)

/-- A value without what matches a pattern at one of its ends, as much or as little as possible. -/
def trimmed (atEnd longest : Bool) (pattern : Field) (value : Raw) : Raw :=
  let lengths := List.range (value.length + 1)
  let lengths := if longest then lengths.reverse else lengths
  let part (n : Nat) : Raw := if atEnd then value.drop (value.length - n) else value.take n
  match lengths.find? fun n => Pattern.matchesName pattern (part n) with
  | some n => if atEnd then value.take (value.length - n) else value.drop n
  | none => value

end ProfiledBuild.Shell
