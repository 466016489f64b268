import ProfiledBuild.Host.Texts

/-! Columns of texts: parts of every line, and lines side by side. -/

namespace ProfiledBuild.Tools

def dividers : Raw → Raw
  | '\\' :: 'n' :: rest => '\n' :: dividers rest
  | '\\' :: 't' :: rest => '\t' :: dividers rest
  | '\\' :: '\\' :: rest => '\\' :: dividers rest
  | '\\' :: '0' :: rest => '\x00' :: dividers rest
  | c :: rest => c :: dividers rest
  | [] => []

structure Span where
  first : Nat
  last : Option Nat

namespace Span

def contains (s : Span) (n : Nat) : Bool := s.first ≤ n && s.last.all (n ≤ ·)

def ofWord? (w : Raw) : Option Span :=
  match Raw.splitOn '-' w with
  | [n] => do
    let n ← (Raw.number? n).filter (0 < ·)
    return ⟨n, some n⟩
  | [[], n] => do return ⟨1, some (← (Raw.number? n).filter (0 < ·))⟩
  | [n, []] => do return ⟨← (Raw.number? n).filter (0 < ·), none⟩
  | [m, n] => do
    let m ← (Raw.number? m).filter (0 < ·)
    let n ← Raw.number? n
    if n < m then none else return ⟨m, some n⟩
  | _ => none

end Span

/-- How a line is cut: into what pieces, which of them are kept, and what is put between them. -/
structure Cut where
  spans : List Span
  byField : Bool
  divider : Char
  onlyDivided : Bool
  complement : Bool
  joint : Option Raw

def Cut.keeps (c : Cut) (n : Nat) : Bool := (c.spans.any (·.contains n)) != c.complement

/-- A line that has no fields is kept as a whole, or left out. -/
def Cut.line (c : Cut) (line : Raw) : Option Raw :=
  if c.byField then
    let fields := Raw.splitOn c.divider line
    if fields.length < 2 then if c.onlyDivided then none else some line
    else
      let kept := (fields.zipIdx 1).filterMap fun (f, n) => if c.keeps n then some f else none
      some ((c.joint.getD [c.divider]).intercalate kept)
  else
    let marked := (line.zipIdx 1).map fun (d, n) => (d, n, c.keeps n)
    let joint := c.joint.getD []
    some (marked.flatMap fun (d, n, kept) =>
      let starts := kept && n ≠ 1 && c.spans.any (·.first = n) && !c.keeps (n - 1) &&
        (List.range n).any fun i => i ≠ 0 && c.keeps i
      if starts then joint ++ [d] else if kept then [d] else [])

def cut : Tool := fun args =>
  withOptions "cut" ⟨['s', 'n', 'z', 'C'], ['f', 'c', 'b', 'd', 'J'],
      [("fields", 'f'), ("characters", 'c'), ("bytes", 'b'), ("delimiter", 'd'),
        ("only-delimited", 's'), ("complement", 'C'), ("output-delimiter", 'J')]⟩ args
    fun chosen x =>
      let lists := chosen.options.filter fun (c, _) => c = 'f' || c = 'c' || c = 'b'
      match lists with
      | [] => misused "cut" "you must specify a list of bytes, characters, or fields" x
      | [(letter, list)] =>
        let words := (Raw.splitOn ',' (list.map fun c => if c = ' ' then ',' else c))
        let divider := (chosen.word? 'd').getD ['\t']
        match words.mapM Span.ofWord? with
        | none =>
          let what := if letter = 'f' then "field" else "byte/character"
          let why := if words.contains ['0'] then
              if letter = 'f' then "fields are numbered from 1"
              else "byte/character positions are numbered from 1"
            else "invalid " ++ what ++ " range"
          misused "cut" why x
        | some spans =>
          if 1 < divider.length then misused "cut" "the delimiter must be a single character" x
          else if letter ≠ 'f' && (chosen.word? 'd').isSome then
            misused "cut" "an input delimiter may be specified only when operating on fields" x
          else
            let c : Cut := ⟨spans, letter = 'f', divider.headD '\x00', chosen.has 's',
              chosen.has 'C', chosen.word? 'J'⟩
            let lines (text : Raw) : Raw :=
              (Raw.lines text).flatMap fun line => ((c.line line).map (· ++ ['\n'])).getD []
            eachText "cut" chosen.operands lines x
      | _ => misused "cut" "only one list may be specified" x

/-- The lines of several texts side by side, as far as the longest text goes. -/
def sideBySide (joints : Raw) : Nat → List (List Raw) → Raw
  | 0, _ => []
  | fuel + 1, columns =>
    if columns.all (· = []) then []
    else
      let row := (columns.zipIdx).flatMap fun (column, i) =>
        let joint := if i = 0 then [] else
          match joints[(i - 1) % joints.length]? with
          | some '\x00' => []
          | some c => [c]
          | none => []
        joint ++ column.headD []
      row ++ '\n' :: sideBySide joints fuel (columns.map List.tail)

def inOneLine (joints : Raw) (lines : List Raw) : Raw :=
  (lines.zipIdx).flatMap fun (line, i) =>
    if i = 0 then line
    else match joints[(i - 1) % joints.length]? with
      | some '\x00' => line
      | some c => c :: line
      | none => line

def paste : Tool := fun args =>
  withOptions "paste" ⟨['s', 'z'], ['d'], [("serial", 's'), ("delimiters", 'd')]⟩ args
    fun chosen x =>
      let joints := ((chosen.word? 'd').map dividers).getD ['\t']
      let names := named chosen.operands
      let (found, x) := texts names x
      match found.find? fun (_, text) => !text.toBool with
      | some (name, .error why) =>
        (.exited 1, x.say ("paste: " ++ shown name ++ ": " ++ why))
      | _ =>
        let columns := found.map fun (_, text) => Raw.lines (text.toOption.getD [])
        if chosen.has 's' then
          (.exited 0, x.write 1 (columns.flatMap fun lines => inOneLine joints lines ++ ['\n']))
        else
          let shares := (names.filter (· = ['-'])).length
          let input := (((names.zip columns).find? (·.1 = ['-'])).map (·.2)).getD []
          let (_, columns) := (names.zip columns).foldl
            (fun (i, done) (name, lines) =>
              if name = ['-'] then
                let share := (input.zipIdx).filterMap fun (line, n) =>
                  if n % shares = i then some line else none
                (i + 1, share :: done)
              else (i, lines :: done))
            (0, [])
          let columns := columns.reverse
          let height := (columns.map List.length).foldl max 0
          (.exited 0, x.write 1 (sideBySide joints height columns))

end ProfiledBuild.Tools
