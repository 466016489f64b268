import ProfiledBuild.Host.Editor.Script
import ProfiledBuild.Host.Texts

/-! The stream editor: a script is carried out for every line of a text. -/

namespace ProfiledBuild

/-- What the editor has before it. Lines have their ends or not; what is to be written after the line
waits in a queue, and so do files. Of lines that reach from one address to another it is known which
are being passed, and up to what line if that is certain. -/
structure Editing where
  lines : List (Raw × Bool)
  lineNumber : Nat
  pattern : Raw
  isEnded : Bool
  hold : Raw
  isChanged : Bool
  passing : List (Nat × Option Nat)
  lastPattern : Option LinePattern
  queue : List Raw
  written : List Raw
  isOpen : Bool
  host : Host

namespace Editing

def start (host : Host) (lines : List (Raw × Bool)) : Editing :=
  ⟨lines, 0, [], true, [], false, [], none, [], [], false, host⟩

def isLast (e : Editing) : Bool := e.lines = []

/-- Writes a line. One that had no end is given it as soon as something follows. -/
def emit (text : Raw) (isEnded : Bool) (e : Editing) : Editing :=
  let gap := if e.isOpen then ['\n'] else []
  { e with
    written := (gap ++ text ++ if isEnded then ['\n'] else []) :: e.written
    isOpen := !isEnded }

def emitText (text : Raw) (e : Editing) : Editing :=
  if text = [] then e
  else
    let gap := if e.isOpen then ['\n'] else []
    { e with written := (gap ++ text) :: e.written, isOpen := false }

def emitPattern (e : Editing) : Editing := e.emit e.pattern e.isEnded

def advance? (e : Editing) : Option Editing :=
  match e.lines with
  | [] => none
  | (line, isEnded) :: rest =>
    some { e with
      lines := rest, lineNumber := e.lineNumber + 1, pattern := line, isEnded := isEnded }

def flush (e : Editing) : Editing :=
  { e.queue.reverse.foldl (fun e text => e.emitText text) e with queue := [] }

def finish (silent : Bool) (e : Editing) : Editing :=
  (if silent then e else e.emitPattern).flush

def passes (index : Nat) (stop : Option Nat) (e : Editing) : Editing :=
  { e with passing := (index, stop) :: e.passing.filter (·.1 ≠ index) }

def leaves (index : Nat) (e : Editing) : Editing :=
  { e with passing := e.passing.filter (·.1 ≠ index) }

end Editing

namespace Editor

def isAt (a : Address) (e : Editing) : Bool × Editing :=
  match a with
  | .line n => (e.lineNumber = n, e)
  | .last => (e.isLast, e)
  | .every first 0 => (e.lineNumber = first, e)
  | .every first step => (first ≤ e.lineNumber && (e.lineNumber - first) % step = 0, e)
  | .found p =>
    match p <|> e.lastPattern with
    | some p => (p.isIn e.pattern, { e with lastPattern := some p })
    | none => (false, e)

/-- Lines are passed from the first address on. If the end is a line that is not ahead, there is
nothing to pass. -/
def enters (index : Nat) (r : Reach) (e : Editing) : Editing :=
  let upTo (n : Nat) : Editing := if e.lineNumber < n then e.passes index (some n) else e
  match r with
  | .to (.line n) => upTo n
  | .to _ => e.passes index none
  | .lines n => upTo (e.lineNumber + n)
  | .multiple 0 => e
  | .multiple n => upTo ((e.lineNumber + n - 1) / n * n)

def isWithin (index : Nat) (r : Reach) (stop : Option Nat) (e : Editing) : Bool × Editing :=
  match stop, r with
  | some n, _ =>
    let e := if n ≤ e.lineNumber then e.leaves index else e
    (e.lineNumber ≤ n, e)
  | none, .to a =>
    let (isEnd, e) := isAt a e
    (true, if isEnd then e.leaves index else e)
  | none, _ => (false, e)

def isSelected (index : Nat) (s : Selector) (e : Editing) : Bool × Editing :=
  let (found, e) := match s.first, s.reach with
    | none, _ => (true, e)
    | some a, none => isAt a e
    | some a, some r =>
      match e.passing.lookup index with
      | some stop => isWithin index r stop e
      | none =>
        if a = .line 0 ∧ e.lineNumber = 1 then isWithin index r none (e.passes index none)
        else
          let (found, e) := isAt a e
          (found, if found then enters index r e else e)
  (found != s.negated, e)

/-- How the case of letters is turned: for all that follow, and for the next one. -/
structure Turning where
  all : Option Char
  one : Option Char

namespace Turning

def apply (letter : Char) (c : Char) : Char :=
  if letter = 'U' || letter = 'u' then c.toUpper else c.toLower

def text (t : Turning) : Raw → Raw × Turning
  | [] => ([], t)
  | c :: rest =>
    let c := (t.all.map (apply · c)).getD c
    let c := (t.one.map (apply · c)).getD c
    let rest := match t.all with
      | some letter => rest.map (apply letter)
      | none => rest
    (c :: rest, { t with one := none })

def turn (letter : Char) (t : Turning) : Turning :=
  match letter with
  | 'E' => ⟨none, none⟩
  | 'U' => ⟨some 'U', t.one⟩
  | 'L' => ⟨some 'L', t.one⟩
  | c => { t with one := some c }

end Turning

def replacement (found : List Piece) (first last : Spot) : Raw :=
  (found.foldl
    (fun (done, t) piece =>
      match piece with
      | .turn letter => (done, Turning.turn letter t)
      | .text text =>
        let (text, t) := t.text text
        (done ++ text, t)
      | .group n =>
        let (text, t) := t.text (if n = 0 then Spot.text first last else last.group n)
        (done ++ text, t))
    ([], (⟨none, none⟩ : Turning))).1

/-- Replaces matches from a spot on. An empty match right behind another one does not count. -/
def replaced (s : Substitution) (p : LinePattern) : Nat → Nat → Option Nat → Spot → Raw × Bool
  | 0, _, _, spot => (spot.rest, false)
  | fuel + 1, count, behind, spot =>
    match p.find? spot with
    | none => (spot.rest, false)
    | some (first, last) =>
      let before := Spot.text spot first
      let isEmpty := first.passed = last.passed
      if isEmpty && behind = some first.passed then
        match first.next?, first.rest with
        | some next, c :: _ =>
          let (text, hit) := replaced s p fuel count none next
          (before ++ c :: text, hit)
        | _, _ => (before ++ first.rest, false)
      else
        let last' := { last with groups := [] }
        let here := s.nth ≤ count + 1
        let text := if here then replacement s.pieces first last else Spot.text first last
        if here && !s.isGlobal then (before ++ text ++ last.rest, true)
        else if isEmpty then
          match last'.next?, last.rest with
          | some next, c :: _ =>
            let (more, hit) := replaced s p fuel (count + 1) none next
            (before ++ text ++ c :: more, hit || here)
          | _, _ => (before ++ text, here)
        else
          let (more, hit) := replaced s p fuel (count + 1) (some last.passed) last'
          (before ++ text ++ more, hit || here)

/-- A text with everything made visible, in lines that are not too long. -/
def listed (text : Raw) : Raw :=
  let octal (n : Nat) : Raw := [Char.ofNat (48 + n / 64), Char.ofNat (48 + n / 8 % 8),
    Char.ofNat (48 + n % 8)]
  let one (c : Char) : Raw :=
    match [('\\', '\\'), ('\x07', 'a'), ('\x08', 'b'), ('\x0c', 'f'), ('\n', 'n'), ('\r', 'r'),
        ('\t', 't'), ('\x0b', 'v')].lookup c with
    | some letter => ['\\', letter]
    | none => if 32 ≤ c.toNat && c.toNat < 127 then [c] else '\\' :: octal c.toNat
  let (_, found) := (text.map one).foldl
    (fun (width, found) piece =>
      if 69 < width + piece.length then (piece.length, piece :: ['\\', '\n'] :: found)
      else (width + piece.length, piece :: found))
    (0, [])
  found.reverse.flatten ++ ['$']

def writeTo (file text : Raw) (e : Editing) : Editing :=
  if file = "/dev/stdout".toList then e.emitText text
  else match e.host.newPlace file with
    | .ok place =>
      let before := match e.host.node? place with
        | some (.file before _) => before
        | _ => []
      { e with host := e.host.writeFile place (before ++ text) }
    | .error _ => e

/-- How the turn of a line goes on: to the next instruction, from some other one on, to its end, to
its start without a new line, or out of the script. -/
inductive Turn where
  | on
  | jump (label : Raw)
  | done (printing : Bool)
  | again
  | quit (status : Nat) (printing : Bool)

def substitute (s : Substitution) (e : Editing) : Editing :=
  match s.pattern <|> e.lastPattern with
  | none => e
  | some p =>
    let e := { e with lastPattern := some p }
    let (text, hit) := replaced s p (2 * e.pattern.length + 2) 0 none (.start e.pattern)
    if !hit then e
    else
      let e := { e with pattern := text, isChanged := true }
      let e := if s.prints then e.emitPattern else e
      match s.file with
      | some file => writeTo file (text ++ ['\n']) e
      | none => e

def act (silent : Bool) (index : Nat) (i : Instruction) (e : Editing) : Turn × Editing :=
  let firstLine := e.pattern.takeWhile (· ≠ '\n')
  match i.action with
  | .block _ => (.on, e)
  | .mark _ => (.on, e)
  | .jump l => (.jump l, e)
  | .jumpIfChanged l => if e.isChanged then (.jump l, { e with isChanged := false }) else (.on, e)
  | .jumpUnlessChanged l =>
    if e.isChanged then (.on, { e with isChanged := false }) else (.jump l, e)
  | .substitute s => (.on, substitute s e)
  | .exchange table =>
    (.on, { e with pattern := e.pattern.map fun c => (table.lookup c).getD c })
  | .insert text => (.on, e.emitText text)
  | .append text => (.on, { e with queue := text :: e.queue })
  | .change text =>
    let isOver := i.selector.reach.isNone || i.selector.negated ||
      (e.passing.lookup index).isNone || e.isLast
    (.done false, if isOver then e.emitText text else e)
  | .delete => (.done false, e)
  | .deleteLine =>
    if firstLine.length = e.pattern.length then (.done false, e)
    else (.again, { e with pattern := e.pattern.drop (firstLine.length + 1) })
  | .print => (.on, e.emitPattern)
  | .printLine => (.on, e.emit firstLine true)
  | .next =>
    if e.isLast then (.quit 0 true, e)
    else (.on, ((e.finish silent).advance?).getD e)
  | .nextToo =>
    if e.isLast then (.quit 0 true, e)
    else
      let before := e.pattern
      let e := ((e.flush).advance?).getD e
      (.on, { e with pattern := before ++ '\n' :: e.pattern })
  | .get => (.on, { e with pattern := e.hold })
  | .getToo => (.on, { e with pattern := e.pattern ++ '\n' :: e.hold })
  | .hold => (.on, { e with hold := e.pattern })
  | .holdToo => (.on, { e with hold := e.hold ++ '\n' :: e.pattern })
  | .swap => (.on, { e with pattern := e.hold, hold := e.pattern })
  | .number => (.on, e.emitText ((toString e.lineNumber).toList ++ ['\n']))
  | .list => (.on, e.emitText (listed e.pattern ++ ['\n']))
  | .clear => (.on, { e with pattern := [] })
  | .quit status => (.quit status true, e)
  | .quitSilently status => (.quit status false, e)
  | .read file =>
    match Tools.contents e.host file with
    | .ok text => (.on, { e with queue := text :: e.queue })
    | .error _ => (.on, e)
  | .write file => (.on, writeTo file (e.pattern ++ ['\n']) e)

abbrev Program := List (Instruction × Nat)

/-- A program from a label on; without a label nothing of it. -/
def after (program : Program) (label : Raw) : Program :=
  if label = [] then []
  else program.dropWhile fun (i, _) => i.action ≠ .mark label

/-- The turn of one line. None stands for a turn without end. -/
def turn (silent : Bool) (program : Program) :
    Nat → Program → Editing → Option (Turn × Editing)
  | 0, _, _ => none
  | _, [], e => some (.done true, e)
  | fuel + 1, (i, index) :: rest, e =>
    let (selected, e) := isSelected index i.selector e
    if !selected then
      match i.action with
      | .block length => turn silent program fuel (rest.drop length) e
      | _ => turn silent program fuel rest e
    else match act silent index i e with
      | (.on, e) => turn silent program fuel rest e
      | (.jump l, e) => turn silent program fuel (after program l) e
      | result => some result

def mostTurns : Nat := 200000

def run (silent : Bool) (program : Program) :
    Nat → Bool → Editing → Option (Nat × Bool × Editing)
  | 0, _, _ => none
  | fuel + 1, isFresh, e =>
    match if isFresh then e.advance? else some e with
    | none => some (0, false, e)
    | some e =>
      let e := if isFresh then { e with isChanged := false } else e
      match turn silent program mostTurns program e with
      | none => none
      | some (.again, e) => run silent program fuel false e.flush
      | some (.quit status printing, e) => some (status, true, e.finish (silent || !printing))
      | some (.done printing, e) => run silent program fuel true (e.finish (silent || !printing))
      | some (_, e) => some (0, false, e)

end Editor

end ProfiledBuild
