import ProfiledBuild.Host.Copies

/-! Lines that follow each other in a text, or are found in two of them. -/

namespace ProfiledBuild.Tools

/-- A run of equal lines: the first of them and how many there are. -/
structure LineRun where
  line : Raw
  count : Nat

/-- Cuts lines into runs. Two lines are equal if their views are. -/
def runsOf (view : Raw → Raw) (lines : List Raw) : List LineRun :=
  (lines.foldl
    (fun runs line =>
      match runs with
      | r :: rest =>
        if view r.line = view line then { r with count := r.count + 1 } :: rest
        else ⟨line, 1⟩ :: runs
      | [] => [⟨line, 1⟩])
    []).reverse

def uniqView (chosen : Chosen) (line : Raw) : Raw :=
  let number (letter : Char) : Option Nat := (chosen.word? letter).bind Raw.number?
  let skipField (line : Raw) : Raw :=
    (line.dropWhile Host.isBlank).dropWhile (!Host.isBlank ·)
  let line := ((number 'f').getD 0).repeat skipField line
  let line := line.drop ((number 's').getD 0)
  let line := match number 'w' with
    | some n => line.take n
    | none => line
  if chosen.has 'i' then line.map Char.toLower else line

/-- One line of every run. A second operand names the file that is written. -/
def uniq : Tool := fun args =>
  withOptions "uniq" ⟨['c', 'd', 'u', 'i', 'z'], ['f', 's', 'w'],
      [("count", 'c'), ("repeated", 'd'), ("unique", 'u'), ("ignore-case", 'i'),
        ("skip-fields", 'f'), ("skip-chars", 's'), ("check-chars", 'w')]⟩ args
    fun chosen x =>
      let (found, x) := texts (chosen.operands.take 1) x
      let text := found.flatMap fun (_, text) => text.toOption.getD []
      let runs := (runsOf (uniqView chosen) (Raw.lines text)).filter fun r =>
        (!chosen.has 'd' || 1 < r.count) && (!chosen.has 'u' || r.count = 1)
      let written := runs.flatMap fun r =>
        (if chosen.has 'c' then numberIn 7 r.count ++ [' '] else []) ++ r.line ++ ['\n']
      let (status, x) := sayFailures "uniq: " 1 found x
      match chosen.operands with
      | [_, path] =>
        match x.host.newPlace path with
        | .ok place => (.exited status, x.withHost (x.host.writeFile place written))
        | .error e => (.exited 1, x.say ("uniq: " ++ shown path ++ ": " ++ missingFile e))
      | _ => (.exited status, x.write 1 written)

/-- Lines of two ordered texts, each with the column it belongs to: that of the first text, that of
the second, or that of both. -/
def merged : Nat → List Raw → List Raw → List (Nat × Raw)
  | 0, _, _ => []
  | _, [], [] => []
  | fuel + 1, a :: s, [] => (1, a) :: merged fuel s []
  | fuel + 1, [], b :: t => (2, b) :: merged fuel [] t
  | fuel + 1, a :: s, b :: t =>
    if a = b then (3, a) :: merged fuel s t
    else if a < b then (1, a) :: merged fuel s (b :: t)
    else (2, b) :: merged fuel (a :: s) t

/-- Compares two texts line by line. A column that is not wanted takes no place. -/
def comm : Tool := fun args =>
  withOptions "comm" ⟨['1', '2', '3'], [], []⟩ args fun chosen x =>
    match chosen.operands with
    | [first, second] =>
      let (found, x) := texts [first, second] x
      let (status, x) := sayFailures "comm: " 1 found x
      let lines (i : Nat) : List Raw := Raw.lines (((found[i]?).bind (·.2.toOption)).getD [])
      let (a, b) := (lines 0, lines 1)
      let isShown (column : Nat) : Bool := !chosen.has (Char.ofNat (48 + column))
      let written := (merged (a.length + b.length) a b).flatMap fun (column, line) =>
        let before := ((List.range column).filter fun c => c ≠ 0 && isShown c).length
        if isShown column then List.replicate before '\t' ++ line ++ ['\n'] else []
      if status = 0 then (.exited 0, x.write 1 written) else (.exited status, x)
    | _ => misused "comm" missingOperand x

/-- The first place where two texts differ: the octet and the line, counted from 1. -/
def firstDifference : Nat → Nat → Raw → Raw → Option (Nat × Nat)
  | octet, line, a :: s, b :: t =>
    if a ≠ b then some (octet, line)
    else firstDifference (octet + 1) (if a = '\n' then line + 1 else line) s t
  | _, _, _, _ => none

def cmp : Tool := fun args =>
  withOptions "cmp" ⟨['s', 'l'], ['n'], [("silent", 's'), ("quiet", 's')]⟩ args fun chosen x =>
    match chosen.operands with
    | first :: rest =>
      let second := rest.headD ['-']
      let (found, x) := texts [first, second] x
      let (status, x) := sayFailures "cmp: " 2 found x
      match found with
      | [(_, .ok a), (_, .ok b)] =>
        let quiet := chosen.has 's'
        match firstDifference 1 1 a b with
        | some (octet, line) =>
          let text := shown first ++ " " ++ shown second ++ " differ: byte " ++ toString octet ++
            ", line " ++ toString line ++ "\n"
          (.exited 1, if quiet then x else x.write 1 (Raw.ofString text))
        | none =>
          if a.length = b.length then (.exited 0, x)
          else
            let shorter := if a.length < b.length then first else second
            let text := "cmp: EOF on " ++ shown shorter
            (.exited 1, if quiet then x else x.say text)
      | _ => (.exited status, x)
    | [] => misusedWith 2 "cmp" "missing operand after 'cmp'" x

end ProfiledBuild.Tools
