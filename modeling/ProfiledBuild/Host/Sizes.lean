import ProfiledBuild.Host.Texts

/-! The sizes of texts. -/

namespace ProfiledBuild.Tools

/-- The width of a line; a tab goes to the next multiple of eight. -/
def lineWidth (line : Raw) : Nat :=
  line.foldl
    (fun width c =>
      if c = '\t' then width / 8 * 8 + 8
      else if c.toNat < 32 || 127 ≤ c.toNat then width else width + 1)
    0

def measures (text : Raw) : List Nat :=
  let isBlank (c : Char) : Bool := c = ' ' || ('\t' ≤ c && c ≤ '\r')
  let (words, _) := text.foldl
    (fun (n, inside) c => if isBlank c then (n, false) else (if inside then n else n + 1, true))
    (0, false)
  [text.count '\n', words, text.length, text.length,
    ((Raw.lines text).map lineWidth).foldl max 0]

def measureLetters : List Char := ['l', 'w', 'm', 'c', 'L']

def isInputFile (x : Context) : Bool := x.descriptors.channel 0 matches .cursor _

/-- Columns are as wide as the greatest of all numbers, and wider for a text of unknown length. -/
def wc : Tool := fun args =>
  withOptions "wc" ⟨measureLetters, [], [("lines", 'l'), ("words", 'w'), ("bytes", 'c'),
      ("chars", 'm'), ("max-line-length", 'L')]⟩ args
    fun chosen x =>
      let wanted (letter : Char) : Bool :=
        if chosen.options = [] then ['l', 'w', 'c'].contains letter else chosen.has letter
      let select (ns : List Nat) : List Nat :=
        ((measureLetters.zip ns).filter fun (l, _) => wanted l).map (·.2)
      let hasFileInput := isInputFile x
      let (found, x) := texts chosen.operands x
      let total := found.foldl
        (fun sum (_, text) =>
          let ns := measures (text.toOption.getD [])
          (List.zipWith (· + ·) (sum.take 4) (ns.take 4)) ++ [max (sum.getD 4 0) (ns.getD 4 0)])
        [0, 0, 0, 0, 0]
      let single := (select total).length = 1 && found.length = 1
      let isUnsized (name : Raw) (text : Except String Raw) : Bool :=
        (name = ['-'] && !hasFileInput) || text matches .error "Is a directory"
      let width := if single then 0
        else if found.any fun (name, text) => isUnsized name text then
          max 7 (toString (total.getD 3 0)).length
        else (toString (total.getD 3 0)).length
      let line (ns : List Nat) (name : Raw) : Raw :=
        let columns := (select ns).map fun n =>
          let number := (toString n).toList
          List.replicate (width - number.length) ' ' ++ number
        [' '].intercalate columns ++ (if name = [] then [] else ' ' :: name) ++ ['\n']
      let named := chosen.operands ≠ []
      let (status, x) := found.foldl
        (fun (status, x) (name, text) =>
          match text with
          | .ok text => (status, x.write 1 (line (measures text) (if named then name else [])))
          | .error why =>
            let x := x.say ("wc: " ++ shown name ++ ": " ++ why)
            (1, if why = "Is a directory" then x.write 1 (line [0, 0, 0, 0, 0] name) else x))
        (0, x)
      let x := if 1 < found.length then x.write 1 (line total "total".toList) else x
      (.exited status, x)

end ProfiledBuild.Tools
