import ProfiledBuild.Host.Texts

/-! The beginnings and ends of texts. -/

namespace ProfiledBuild.Tools

structure Count where
  sign : Option Char
  count : Nat

def units : List (String × Nat) :=
  [("", 1), ("b", 512), ("kB", 1000), ("k", 1024), ("K", 1024), ("KB", 1000), ("KiB", 1024),
    ("MB", 1000000), ("m", 1048576), ("M", 1048576), ("MiB", 1048576), ("GB", 1000000000),
    ("G", 1073741824), ("GiB", 1073741824)]

def measure? (w : Raw) : Option Nat := do
  let digits := w.takeWhile Raw.isDigit
  return (← Raw.number? digits) * (← units.lookup (String.ofList (w.drop digits.length)))

def Count.ofWord? (w : Raw) : Option Count :=
  match w with
  | '-' :: ds => (measure? ds).map (⟨some '-', ·⟩)
  | '+' :: ds => (measure? ds).map (⟨some '+', ·⟩)
  | ds => (measure? ds).map (⟨none, ·⟩)

def Count.first (n : Count) (xs : List α) : List α :=
  if n.sign = some '-' then xs.take (xs.length - n.count) else xs.take n.count

def Count.final (n : Count) (xs : List α) : List α :=
  if n.sign = some '+' then xs.drop (n.count - 1) else xs.drop (xs.length - n.count)

structure Portion where
  octets : Bool
  count : Count
  lineEnd : Char

namespace Portion

/-- Stretches of a text that end with a character each; the last one may have no end. -/
def pieces (p : Portion) (text : Raw) : List Raw :=
  if p.lineEnd = '\n' then endedLines text
  else
    let stretches := Raw.splitOn p.lineEnd text
    let last := stretches.getLastD []
    stretches.dropLast.map (· ++ [p.lineEnd]) ++ if last = [] then [] else [last]

def select (p : Portion) (choose : {α : Type} → Count → List α → List α) (text : Raw) : Raw :=
  if p.octets then choose p.count text else (choose p.count (p.pieces text)).flatten

def isEarly (p : Portion) (text : Raw) : Bool :=
  p.count.sign ≠ some '-' &&
    p.count.count ≤ (if p.octets then text.length else text.count p.lineEnd)

end Portion

def blockSize : Nat := 8192

/-- Reads the beginning of the input. Of a stream whole blocks are read, of a file only what is
wanted. -/
def readLead (p : Portion) (x : Context) : Raw × Context :=
  let channel := x.descriptors.channel 0
  let text := x.host.unread channel
  let lead := p.select Count.first text
  let blocks := (lead.length + blockSize - 1) / blockSize * blockSize
  let taken := match channel with
    | .stream _ => if p.isEarly text then min blocks text.length else text.length
    | _ => lead.length
  (lead, { x with
    host := x.host.leave channel taken (text.drop taken) (!p.isEarly text) })

/-- Older ways to give a count: a number after a dash, or after a plus. -/
def modernised (tool : String) (args : List Raw) : List Raw :=
  match args with
  | ('-' :: c :: more) :: rest =>
    let digits := (c :: more).takeWhile Raw.isDigit
    match digits, (c :: more).drop digits.length with
    | [], _ => args
    | digits, ['c'] => ['-', 'c'] :: digits :: rest
    | digits, [] => ['-', 'n'] :: digits :: rest
    | _, _ => args
  | ('+' :: digits) :: rest =>
    if tool = "tail" && (Raw.number? digits).isSome then ['-', 'n'] :: ('+' :: digits) :: rest
    else args
  | args => args

def endTool (tool : String) (part : Portion → Raw → Raw) (input : Portion → Context → Raw × Context) :
    Tool := fun args =>
  withOptions tool ⟨['q', 'v', 'z', 'f', 'F'], ['n', 'c', 's'], [("lines", 'n'), ("bytes", 'c'),
      ("quiet", 'q'), ("silent", 'q'), ("verbose", 'v'), ("zero-terminated", 'z')]⟩
    (modernised tool args) fun chosen x =>
      let counts := chosen.options.filter fun (c, _) => c = 'n' || c = 'c'
      match counts.find? fun (_, w) => (Count.ofWord? w).isNone with
      | some (c, w) =>
        let what := if c = 'n' then "lines" else "bytes"
        (.exited 1, x.say (tool ++ ": invalid number of " ++ what ++ ": " ++ quoted w))
      | none =>
        let last := counts.getLastD ('n', ['1', '0'])
        let p : Portion := ⟨last.1 = 'c', (Count.ofWord? last.2).getD ⟨none, 10⟩,
          if chosen.has 'z' then '\x00' else '\n'⟩
        let names := named chosen.operands
        let titled := chosen.has 'v' || (1 < names.length && !chosen.has 'q')
        let write (first : Bool) (name text : Raw) (x : Context) : Context :=
          let name := if name = ['-'] then "standard input".toList else name
          let gap := if first then [] else ['\n']
          x.write 1 (if titled then
            gap ++ "==> ".toList ++ name ++ " <==\n".toList ++ text else text)
        let (status, _, x) := names.foldl
          (fun (status, first, x) name =>
            if name = ['-'] then
              let (text, x) := input p x
              (status, false, write first name text x)
            else match contents x.host name with
              | .ok text => (status, false, write first name (part p text) x)
              | .error why =>
                (1, first,
                  x.say (tool ++ ": cannot open " ++ quoted name ++ " for reading: " ++ why)))
          (0, true, x)
        (.exited status, x)

def head : Tool := endTool "head" (fun p => p.select Count.first) readLead

def tail : Tool :=
  endTool "tail" (fun p => p.select Count.final) fun p x =>
    let (text, x) := x.readAll
    (p.select Count.final text, x)

end ProfiledBuild.Tools
