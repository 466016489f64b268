import ProfiledBuild.Host.Options
import ProfiledBuild.Host.Printf

/-! Numbers in a row, and a word without end. -/

namespace ProfiledBuild.Tools

/-- A decimal number: its digits without the point, and how many of them stand after it. The width
is that of the text. -/
structure Step where
  digits : Int
  places : Nat
  width : Nat

namespace Step

def ofWord? (w : Raw) : Option Step := do
  let bare := w.dropWhile (· = '+')
  let (negative, text) := match bare with
    | '-' :: rest => (true, rest)
    | text => (false, text)
  match pointedDigits 10 text with
  | (some (n, places), rest) =>
    let (e, rest) := power 'e' rest
    if rest ≠ [] ∨ 1000 < e.natAbs then none
    else
      let places : Int := places - e
      let digits : Int := n * (Nat.pow 10 (-places).toNat : Int)
      let extra := if text.head? = some '.' then 1 else 0
      return ⟨if negative then -digits else digits, places.toNat, bare.length + extra⟩
  | _ => none

def one : Step := ⟨1, 0, 1⟩

def scaled (s : Step) (places : Nat) : Int := s.digits * (Nat.pow 10 (places - s.places) : Int)

end Step

def numbers (first step last : Int) : List Int :=
  if step = 0 then []
  else
    let count := if step < 0 then (first - last) / -step else (last - first) / step
    (List.range (count + 1).toNat).map fun (i : Nat) => first + step * (i : Int)

def quantityOf (n : Int) (places : Nat) : Quantity :=
  .finite (n < 0) n.natAbs (Nat.pow 10 places)

/-- The width of all numbers of a row, if they are to be equally wide. -/
def rowWidth (first last : Step) (places : Nat) : Nat :=
  let firstWidth := first.width + places - first.places +
    if first.places = 0 && places ≠ 0 then 1 else 0
  let lastWidth := last.width + places - last.places +
    if last.places = 0 && places ≠ 0 then 1 else 0
  let lastWidth := if last.places ≠ 0 && places = 0 then lastWidth - 1 else lastWidth
  max firstWidth lastWidth

/-- How the numbers of a row are written. A format of one's own has one directive. -/
def rowText (chosen : Chosen) (first step last : Step) (n : Int) (places : Nat) : Raw :=
  match chosen.word? 'f' with
  | some format =>
    let quantity := quantityOf n places
    let before := format.takeWhile (· ≠ '%')
    let (layout, after, _) := readLayout (format.drop (before.length + 1)) ⟨[], [], false, []⟩
    before ++ layout.real quantity ++ after
  | none =>
    let shownPlaces := max first.places step.places
    let width := if chosen.has 'w' then rowWidth first last shownPlaces else 0
    let flags := if chosen.has 'w' then ['0'] else []
    ({ flags := flags, width := width, precision := some shownPlaces, kind := 'f' } : Layout).real
      (quantityOf n places)

def seq : Tool := fun args x =>
  let isNumber (w : Raw) : Bool := match w with
    | '-' :: c :: _ => c = '.' || c.isDigit
    | _ => false
  let options : Options := ⟨['w'], ['s', 'f'],
    [("separator", 's'), ("format", 'f'), ("equal-width", 'w')]⟩
  let (front, words) := options.front isNumber args
  withOptions "seq" options front (fun chosen x =>
    let write (first step last : Step) : Ending × Context :=
      let places := max (max first.places step.places) last.places
      if step.digits = 0 then
        misused "seq" ("invalid Zero increment value: " ++ quoted (words.getD 1 [])) x
      else
        let row := numbers (first.scaled places) (step.scaled places) (last.scaled places)
        let texts := row.map fun n => rowText chosen first step last n places
        let separator := (chosen.word? 's').getD ['\n']
        (.exited 0,
          x.write 1 (if texts = [] then [] else separator.intercalate texts ++ ['\n']))
    match words.map Step.ofWord? with
    | [] => misused "seq" missingOperand x
    | [some last] => write .one .one last
    | [some first, some last] => write first .one last
    | [some first, some step, some last] => write first step last
    | numbers =>
      match (words.zip numbers).find? fun (_, n) => n.isNone with
      | some (w, _) => misused "seq" ("invalid floating point argument: " ++ quoted w) x
      | none => misused "seq" ("extra operand " ++ quoted (words.getD 3 [])) x) x

/-- The same line again and again, as long as there is a reader. A stream that takes everything
cuts it off. -/
def yes : Tool := fun args x =>
  let words := if args.head? = some ['-', '-'] then args.tail else args
  let line := (if words = [] then ['y'] else [' '].intercalate words) ++ ['\n']
  let room := match x.descriptors.channel 1 with
    | .stream id => ((x.host.streams.lookup id).bind (·.room)).getD 0
    | _ => 0
  let text := (List.replicate (room / line.length + 1) line).flatten
  let x := x.write 1 text
  (if x.host.fault.isSome then .exited 1 else .cutOff, x)

end ProfiledBuild.Tools
