import ProfiledBuild.Host.Texts
import ProfiledBuild.Text.LinePattern.Reader

/-! Lines that match. -/

namespace ProfiledBuild.Tools

def Context.readUntil (isEnough : Raw → Bool) (x : Context) : Raw × Context :=
  let (text, after) := x.readAll
  (text, if isEnough text then after.contentAs x else after)

/-- Digits have no letter of their own in lines' patterns. -/
def withDigits : Raw → Raw
  | '\\' :: 'd' :: rest => "[0-9]".toList ++ withDigits rest
  | '\\' :: c :: rest => '\\' :: c :: withDigits rest
  | c :: rest => c :: withDigits rest
  | [] => []

def patternOf (chosen : Chosen) (patterns : List Raw) : Except String LinePattern := do
  let extended := chosen.has 'E' || chosen.has 'P'
  let one (text : Raw) : Except String LinePattern :=
    if chosen.has 'F' then .ok (.literal text)
    else (LinePattern.ofText extended (if chosen.has 'P' then withDigits text else text)).map (·.1)
  let all ← patterns.mapM one
  let pattern := match all with
    | [] => .chars .none
    | p :: rest => rest.foldl .alt p
  return if chosen.has 'i' || chosen.has 'y' then pattern.withoutCase else pattern

/-- Where the first match from a spot on lies, under the options of `grep`. -/
def finder (chosen : Chosen) (p : LinePattern) (s : Spot) : Option (Spot × Spot) :=
  if chosen.has 'x' then
    if s.passed = 0 then
      ((p.ends p.looksBack s).find? fun t => t.rest = []).map fun t => (s, t)
    else none
  else if chosen.has 'w' then p.searchWord? (s.rest.length + 1) s
  else p.find? s

/-- All matches of a line that are not empty, from a spot on. -/
def allMatches (find : Spot → Option (Spot × Spot)) : Nat → Spot → List Raw
  | 0, _ => []
  | fuel + 1, s =>
    match find s with
    | none => []
    | some (first, last) =>
      if first.passed < last.passed then Spot.text first last :: allMatches find fuel last
      else match last.next? with
        | some s => allMatches find fuel s
        | none => []

/-- Numbers of lines with the lines around them, as far as they are wanted. A gap is marked by
nothing. Of a line it is told whether it was found itself. -/
def withContext (before after count : Nat) (hits : List Nat) : List (Option (Nat × Bool)) :=
  let near (n : Nat) : Bool := hits.any fun h => h ≤ n + before && n ≤ h + after
  let shown := ((List.range count).map (· + 1)).filter near
  let (_, found) := shown.foldl
    (fun (last, found) n =>
      let gap := if last ≠ 0 && last + 1 < n && (before ≠ 0 || after ≠ 0) then [none] else []
      (n, some (n, hits.contains n) :: (gap ++ found)))
    (0, [])
  found.reverse

/-- What `grep` writes for a text, and how many lines were found. -/
def grepText (chosen : Chosen) (find : Spot → Option (Spot × Spot)) (titled : Bool)
    (name text : Raw) : Raw × Nat :=
  let number (letter : Char) : Option Nat := (chosen.word? letter).bind Raw.number?
  let name := if name = ['-'] then "(standard input)".toList else name
  let lines := Raw.lines text
  let found := (lines.zipIdx 1).filter fun (line, _) =>
    (find (.start line)).isSome != chosen.has 'v'
  let found := match number 'm' with
    | some n => found.take n
    | none => found
  let count := found.length
  let label (separator : Char) : Raw := if titled then name ++ [separator] else []
  let mark (separator : Char) (n : Nat) : Raw :=
    label separator ++ if chosen.has 'n' then (toString n).toList ++ [separator] else []
  let isBinary := text.contains '\x00' && !chosen.has 'a'
  if chosen.has 'q' then ([], count)
  else if chosen.has 'l' then (if count = 0 then [] else name ++ ['\n'], count)
  else if chosen.has 'L' then (if count = 0 then name ++ ['\n'] else [], count)
  else if chosen.has 'c' then (label ':' ++ (toString count).toList ++ ['\n'], count)
  else if isBinary then
    (if count = 0 then [] else "grep: ".toList ++ name ++ ": binary file matches\n".toList, count)
  else if chosen.has 'o' then
    let pieces := found.flatMap fun (line, n) =>
      if chosen.has 'v' then []
      else (allMatches find (line.length + 1) (.start line)).flatMap fun piece =>
        mark ':' n ++ piece ++ ['\n']
    (pieces, count)
  else
    let around := (number 'C').getD 0
    let shown := withContext ((number 'B').getD around) ((number 'A').getD around) lines.length
      (found.map (·.2))
    let array := lines.toArray
    let written := shown.flatMap fun
      | some (n, isHit) =>
        mark (if isHit then ':' else '-') n ++ array.getD (n - 1) [] ++ ['\n']
      | none => ['-', '-', '\n']
    (if found.length = lines.length ∨ (chosen.word? 'A' <|> chosen.word? 'B' <|>
        chosen.word? 'C').isNone then
      found.flatMap fun (line, n) => mark ':' n ++ line ++ ['\n']
    else written, count)

def sayGrepUsage (x : Context) : Context :=
  sayHelp "grep" (x.say "Usage: grep [OPTION]... PATTERNS [FILE]...")

def grepOptions : Options :=
  ⟨"qvcFEGPiyxwnlLhHsoarRbzIU".toList, ['e', 'f', 'm', 'A', 'B', 'C', 'K'],
    [("quiet", 'q'), ("silent", 'q'), ("invert-match", 'v'), ("count", 'c'), ("fixed-strings", 'F'),
      ("extended-regexp", 'E'), ("basic-regexp", 'G'), ("ignore-case", 'i'), ("line-regexp", 'x'),
      ("word-regexp", 'w'), ("line-number", 'n'), ("files-with-matches", 'l'),
      ("files-without-match", 'L'), ("no-filename", 'h'), ("with-filename", 'H'),
      ("no-messages", 's'), ("only-matching", 'o'), ("text", 'a'), ("recursive", 'r'),
      ("regexp", 'e'), ("file", 'f'), ("max-count", 'm'), ("after-context", 'A'),
      ("before-context", 'B'), ("context", 'C'), ("color", 'b'), ("colour", 'b')]⟩

def filesBelow (h : Host) (path : Raw) : List Raw :=
  match h.lookup path, h.place path with
  | .ok .directory, .ok place =>
    let found := h.files.filterMap fun (f, node) =>
      if f.take place.length = place && node matches .file .. then
        some (Host.withoutSlashes path ++ (f.drop place.length).flatMap ('/' :: ·))
      else none
    found.mergeSort fun a b => !(b < a)
  | _, _ => [path]

def grepFiles (chosen : Chosen) (p : LinePattern) (files : List Raw) (x : Context) :
    Ending × Context :=
  let deep := chosen.has 'r' || chosen.has 'R'
  let files := if deep then (if files = [] then [['.']] else files) else named files
  let titled := (chosen.has 'H' || deep || 1 < files.length) && !chosen.has 'h'
  let names := if deep then files.flatMap (filesBelow x.host) else files
  let find := finder chosen p
  let isEnough (text : Raw) : Bool :=
    let hits := (Raw.lines text).filter fun line => (find (.start line)).isSome != chosen.has 'v'
    if chosen.has 'q' || chosen.has 'l' then hits ≠ []
    else ((chosen.word? 'm').bind Raw.number?).any (· ≤ hits.length)
  let (failed, count, x) := names.foldl
    (fun (failed, count, x) name =>
      let (text, x) : Except String Raw × Context :=
        if name = ['-'] then
          let (text, x) := x.readUntil isEnough
          (.ok text, x)
        else (contents x.host name, x)
      match text with
      | .ok text =>
        let (written, n) := grepText chosen find titled name text
        (failed, count + n, x.write 1 written)
      | .error why =>
        let x := if chosen.has 's' then x else x.say ("grep: " ++ shown name ++ ": " ++ why)
        (true, count, x))
    (false, 0, x)
  if chosen.has 'q' && 0 < count then (.exited 0, x)
  else if failed then (.exited 2, x)
  else (.exited (if 0 < count then 0 else 1), x)

/-- A number after a dash asks for so many lines around those that match. -/
def withCounts (args : List Raw) : List Raw :=
  args.map fun w =>
    match w with
    | '-' :: c :: rest =>
      if c.isDigit && rest.all Raw.isDigit then '-' :: 'C' :: c :: rest else w
    | w => w

def grep : Tool := fun args x =>
  match grepOptions.read (withCounts args) with
  | .error e => (.exited 2, sayGrepUsage (x.say ("grep: " ++ e.message)))
  | .ok chosen =>
    let given := chosen.options.filter fun (c, _) => c = 'e' || c = 'f'
    let sources := given.map fun (c, w) =>
      if c = 'e' then .ok (Raw.splitOn '\n' w) else (contents x.host w).map Raw.lines
    let (sources, files) := match given, chosen.operands with
      | [], pattern :: files => ([Except.ok (Raw.splitOn '\n' pattern)], files)
      | _, files => (sources, files)
    match sources.mapM id with
    | .error why => (.exited 2, x.say ("grep: " ++ why))
    | .ok [] => (.exited 2, sayGrepUsage x)
    | .ok patterns =>
      match patternOf chosen patterns.flatten with
      | .error why => (.exited 2, x.say ("grep: " ++ why))
      | .ok p => grepFiles chosen p files x

end ProfiledBuild.Tools
