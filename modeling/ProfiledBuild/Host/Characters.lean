import ProfiledBuild.Host.Printf
import ProfiledBuild.Host.Texts

/-! Characters for characters. -/

namespace ProfiledBuild.Tools

def octets : Raw := (List.range 256).map Char.ofNat

def characterClasses : List (String × (Char → Bool)) :=
  [("lower", Char.isLower), ("upper", Char.isUpper), ("digit", Char.isDigit),
    ("alpha", Char.isAlpha), ("alnum", Char.isAlphanum), ("blank", Host.isBlank),
    ("space", fun c => c = ' ' || ('\t' ≤ c && c ≤ '\r')),
    ("cntrl", fun c => c.toNat < 32 || c.toNat = 127),
    ("print", fun c => 32 ≤ c.toNat && c.toNat < 127),
    ("graph", fun c => 32 < c.toNat && c.toNat < 127),
    ("punct", fun c => 32 < c.toNat && c.toNat < 127 && !c.isAlphanum),
    ("xdigit", fun c => c.isDigit || ('a' ≤ c && c ≤ 'f') || ('A' ≤ c && c ≤ 'F'))]

/-- A character of a set, which may be written as an escape. -/
def setCharacter? : Raw → Option (Char × Raw)
  | [] => none
  | '\\' :: c :: rest =>
    match escaped false c rest with
    | ([d], rest) => some (d, rest)
    | _ => some (c, rest)
  | c :: rest => some (c, rest)

def setClass? : Raw → Option (Raw × Raw)
  | '[' :: ':' :: rest => do
    let name := rest.takeWhile (· ≠ ':')
    let inClass ← characterClasses.lookup (String.ofList name)
    match rest.drop name.length with
    | ':' :: ']' :: rest => return (octets.filter inClass, rest)
    | _ => none
  | _ => none

/-- The characters of a set in order: classes, ranges and single ones. A range that runs backwards
is none. -/
def characters : Nat → Raw → Except String Raw
  | 0, _ => .ok []
  | _, [] => .ok []
  | fuel + 1, set =>
    match setClass? set, setCharacter? set with
    | some (members, rest), _ => do return members ++ (← characters fuel rest)
    | none, none => .ok []
    | none, some (a, '-' :: rest) =>
      match setCharacter? rest with
      | none => .ok [a, '-']
      | some (b, after) =>
        if b < a then .error ("range-endpoints of '" ++ shown [a, '-', b] ++
          "' are in reverse collating sequence order")
        else do
          let members := (List.range (b.toNat + 1 - a.toNat)).map fun i => Char.ofNat (a.toNat + i)
          return members ++ (← characters fuel after)
    | none, some (a, rest) => do return a :: (← characters fuel rest)

def squeezed (set text : Raw) : Raw :=
  (text.foldl
    (fun done c => if done.head? = some c && set.contains c then done else c :: done) []).reverse

/-- Puts characters for those of a set; the last one stands for all that are left. -/
def exchanged (keys values text : Raw) : Raw :=
  let padded := values ++ List.replicate (keys.length - values.length) (values.getLastD '\x00')
  let table := (keys.zip padded).reverse
  let places := octets.map fun c => (table.lookup c).getD c
  let places := places.toArray
  text.map fun c => places.getD c.toNat c

def tr : Tool := fun args =>
  withOptions "tr" ⟨['d', 's', 'c', 'C', 't'], [], [("delete", 'd'), ("squeeze-repeats", 's'),
      ("complement", 'c'), ("truncate-set1", 't')]⟩ args fun chosen x =>
    let members (set : Raw) : Except String Raw := characters (set.length + 1) set
    let firstSet (set : Raw) : Except String Raw := do
      let found ← members set
      return if chosen.has 'c' || chosen.has 'C' then octets.filter (!found.contains ·) else found
    let filter (f : Except String (Raw → Raw)) : Ending × Context :=
      match f with
      | .error why => (.exited 1, x.say ("tr: " ++ why))
      | .ok f =>
        let (text, x) := x.readAll
        (.exited 0, x.write 1 (f text))
    let deletes := chosen.has 'd'
    let squeezes := chosen.has 's'
    match chosen.operands with
    | [] => misused "tr" missingOperand x
    | [set] =>
      if deletes && squeezes then misused "tr" ("missing operand after " ++ quoted set ++
        "\nTwo strings must be given when both deleting and squeezing repeats.") x
      else if deletes then filter do
        let set ← firstSet set
        return fun text => text.filter (!set.contains ·)
      else if squeezes then filter do return squeezed (← firstSet set)
      else misused "tr" ("missing operand after " ++ quoted set ++
        "\nTwo strings must be given when translating.") x
    | [set, values] =>
      if deletes && !squeezes then misused "tr" ("extra operand " ++ quoted values ++
        "\nOnly one string may be given when deleting without squeezing repeats.") x
      else if values = [] && !deletes then
        (.exited 1, x.say "tr: when not truncating set1, string2 must be non-empty")
      else filter do
        let keys ← firstSet set
        let values ← members values
        let keys := if chosen.has 't' then keys.take values.length else keys
        return fun text =>
          let text := if deletes then text.filter (!keys.contains ·)
            else exchanged keys values text
          if squeezes then squeezed values text else text
    | _ :: _ :: extra :: _ => misused "tr" ("extra operand " ++ quoted extra) x

end ProfiledBuild.Tools
