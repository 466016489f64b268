import ProfiledBuild.Host.Texts

/-! Tools that write texts line by line as they are, in another order, or with marks. -/

namespace ProfiledBuild.Tools

def numberIn (width n : Nat) : Raw :=
  let digits := (toString n).toList
  List.replicate (width - digits.length) ' ' ++ digits

/-- Characters that cannot be seen, by others: a control character by a letter, and an octet past
ASCII by the one that is 128 below it. -/
def visible (tabs others : Bool) (c : Char) : Raw :=
  let low (n : Nat) : Raw :=
    if n < 32 then ['^', Char.ofNat (n + 64)] else if n = 127 then ['^', '?'] else [Char.ofNat n]
  if c = '\t' then (if tabs then low 9 else [c])
  else if !others || c = '\n' then [c]
  else if c.toNat < 128 then low c.toNat
  else ['M', '-'] ++ low (c.toNat - 128)

def withoutGaps : List Raw → List Raw
  | ['\n'] :: ['\n'] :: rest => withoutGaps (['\n'] :: rest)
  | line :: rest => line :: withoutGaps rest
  | [] => []

/-- Numbers lines, or those that are not blank, from some number on. The next number comes with
them. -/
def numbered (all : Bool) (start : Nat) (lines : List Raw) : Nat × List Raw :=
  let (next, written) := lines.foldl
    (fun (n, done) line =>
      if all || line ≠ ['\n'] then (n + 1, (numberIn 6 n ++ '\t' :: line) :: done)
      else (n, line :: done))
    (start, [])
  (next, written.reverse)

/-- A text with the marks that the options of `cat` ask for, and the number of the next line. -/
def decorated (chosen : Chosen) (start : Nat) (text : Raw) : Nat × Raw :=
  let any (letters : List Char) : Bool := letters.any chosen.has
  let tabs := any ['A', 't', 'T']
  let others := any ['A', 'e', 't', 'v']
  let ends := any ['A', 'e', 'E']
  let lines := (endedLines text).map fun line =>
    let line := if tabs || others then line.flatMap (visible tabs others) else line
    if ends && line.getLast? = some '\n' then line.dropLast ++ ['$', '\n'] else line
  let lines := if chosen.has 's' then withoutGaps lines else lines
  let (next, lines) :=
    if chosen.has 'b' then numbered false start lines
    else if chosen.has 'n' then numbered true start lines
    else (start, lines)
  (next, lines.flatten)

def cat : Tool := fun args =>
  withOptions "cat" ⟨"AbeEnstTuv".toList, [], [("number", 'n'), ("number-nonblank", 'b'),
      ("squeeze-blank", 's'), ("show-all", 'A'), ("show-ends", 'E'), ("show-tabs", 'T'),
      ("show-nonprinting", 'v')]⟩ args
    fun chosen x =>
      let (found, x) := texts chosen.operands x
      let (_, status, x) := found.foldl
        (fun (n, status, x) (name, text) =>
          match text with
          | .ok text =>
            let (n, text) := if chosen.options = [] then (n, text) else decorated chosen n text
            (n, status, x.write 1 text)
          | .error why => (n, 1, x.say ("cat: " ++ shown name ++ ": " ++ why)))
        (1, 0, x)
      (.exited status, x)

def tac : Tool := fun args =>
  withOptions "tac" ⟨[], [], []⟩ args fun chosen x =>
    eachText "tac" chosen.operands (fun text => (endedLines text).reverse.flatten) x

def rev : Tool := fun args =>
  withOptions "rev" ⟨[], [], []⟩ args fun chosen x =>
    let turned (line : Raw) : Raw :=
      if line.getLast? = some '\n' then line.dropLast.reverse ++ ['\n'] else line.reverse
    eachText "rev" chosen.operands (fun text => (endedLines text).flatMap turned) x

/-- How `nl` numbers lines: which of them, from what number on and by what steps, and what the
number looks like. -/
structure Numbering where
  all : Bool
  none : Bool
  start : Nat
  step : Nat
  width : Nat
  separator : Raw
  style : Raw

def Numbering.ofChosen (chosen : Chosen) : Numbering where
  all := chosen.word? 'b' = some ['a']
  none := chosen.word? 'b' = some ['n']
  start := ((chosen.word? 'v').bind Raw.number?).getD 1
  step := ((chosen.word? 'i').bind Raw.number?).getD 1
  width := ((chosen.word? 'w').bind Raw.number?).getD 6
  separator := (chosen.word? 's').getD ['\t']
  style := (chosen.word? 'n').getD ['r', 'n']

def Numbering.number (n : Numbering) (i : Nat) : Raw :=
  let digits := (toString i).toList
  let gap := n.width - digits.length
  match String.ofList n.style with
  | "ln" => digits ++ List.replicate gap ' '
  | "rz" => List.replicate gap '0' ++ digits
  | _ => List.replicate gap ' ' ++ digits

def numberLines : Tool := fun args =>
  withOptions "nl" ⟨['p'], ['b', 'v', 'i', 'w', 's', 'n'],
      [("body-numbering", 'b'), ("starting-line-number", 'v'), ("line-increment", 'i'),
        ("number-width", 'w'), ("number-separator", 's'), ("number-format", 'n')]⟩ args
    fun chosen x =>
      let n := Numbering.ofChosen chosen
      let (found, x) := texts chosen.operands x
      let lines := found.flatMap fun (_, text) => Raw.lines (text.toOption.getD [])
      let blanks := List.replicate (n.width + n.separator.length) ' '
      let (_, written) := lines.foldl
        (fun (i, written) line =>
          if !n.none && (n.all || line ≠ []) then
            (i + n.step, (n.number i ++ n.separator ++ line ++ ['\n']) :: written)
          else (i, (blanks ++ line ++ ['\n']) :: written))
        (n.start, [])
      let (status, x) := sayFailures "nl: " 1 found x
      (.exited status, x.write 1 written.reverse.flatten)

def tee : Tool := fun args =>
  withOptions "tee" ⟨['a', 'i', 'p'], [], [("append", 'a'), ("ignore-interrupts", 'i')]⟩ args
    fun chosen x =>
      let (text, x) := x.readAll
      let one (path : Raw) (x : Context) : Except String Context :=
        match x.host.lookup path, x.host.place path with
        | .ok .directory, _ => .error (shown path ++ ": Is a directory")
        | .ok (.file before _), .ok place =>
          let before := if chosen.has 'a' then before else []
          .ok { x with host := x.host.writeFile place (before ++ text) }
        | .ok (.device d), _ => .ok { x with host := x.host.write (.device d) text }
        | .ok _, _ => .ok x
        | .error _, _ =>
          match x.host.newPlace path with
          | .ok place => .ok { x with host := x.host.writeFile place text }
          | .error e => .error (shown path ++ ": " ++ missingFile e)
      let (ending, x) := forEach one "tee" chosen.operands 0 x
      (ending, x.write 1 text)

end ProfiledBuild.Tools
