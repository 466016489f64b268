import ProfiledBuild.Host.Editor

/-! The stream editor as a tool: where its scripts and lines come from, and where the result goes. -/

namespace ProfiledBuild

namespace Tools

def editOptions : Options :=
  ⟨"nErsuz".toList, ['e', 'f', 'l'], [("quiet", 'n'), ("silent", 'n'), ("regexp-extended", 'E'),
    ("expression", 'e'), ("file", 'f'), ("separate", 's'), ("in-place", 'i')]⟩

/-- A word that asks for files to be changed where they are, with an ending for what they were. -/
def inPlace? : Raw → Option Raw
  | '-' :: 'i' :: ending => some ending
  | w => if "--in-place".toList.isPrefixOf w then some (w.drop 11) else none

def markedLines (text : Raw) : List (Raw × Bool) :=
  (endedLines text).map fun line =>
    if line.getLast? = some '\n' then (line.dropLast, true) else (line, false)

def linesOfTexts (found : List (Raw × Except String Raw)) : List (Raw × Bool) :=
  let all := found.map fun (_, text) => markedLines (text.toOption.getD [])
  let filled := all.filter (· ≠ [])
  (filled.dropLast.map fun lines => lines.map fun (line, _) => (line, true)).flatten ++
    filled.getLastD []

/-- Edits lines; `none` if that has no end. -/
def edit (silent : Bool) (program : Editor.Program) (h : Host)
    (lines : List (Raw × Bool)) : Option (Nat × Bool × Editing) :=
  Editor.run silent program (4 * lines.length + Editor.mostTurns) true (.start h lines)

def editInPlace (silent : Bool) (ending : Raw) (program : Editor.Program) :
    List Raw → Nat → Context → Ending × Context
  | [], failure, x => (.exited failure, x)
  | name :: rest, failure, x =>
    match contents x.host name, x.host.place name with
    | .ok text, .ok place =>
      match edit silent program x.host (markedLines text) with
      | none => (.cutOff, x)
      | some (status, isOut, e) =>
        let kept := e.lines.flatMap fun (line, isEnded) =>
          line ++ if isEnded then ['\n'] else []
        let host := if ending = [] then e.host
          else e.host.writeFile (place.dropLast ++ [place.getLastD [] ++ ending]) text
        let x := x.withHost (host.writeFile place (e.written.reverse.flatten ++ kept))
        if isOut then (.exited status, x) else editInPlace silent ending program rest failure x
    | .error why, _ =>
      editInPlace silent ending program rest 4
        (x.say ("sed: can't read " ++ shown name ++ ": " ++ why))
    | _, .error e =>
      editInPlace silent ending program rest 4
        (x.say ("sed: can't read " ++ shown name ++ ": " ++ missingFile e))

def writtenFiles (program : Editor.Program) : List Raw :=
  program.filterMap fun (i, _) =>
    match i.action with
    | .write file => some file
    | .substitute s => s.file
    | _ => none

def sed : Tool := fun args x =>
  let ending := args.findSome? inPlace?
  match editOptions.read (args.filter fun w => (inPlace? w).isNone) with
  | .error e => misused "sed" e.message x
  | .ok chosen =>
    let script (c : Char) (w : Raw) : Except String Raw :=
      if c = 'e' then .ok w
      else (contents x.host w).map fun text =>
        if text.getLast? = some '\n' then text.dropLast else text
    let given := (chosen.options.filter fun (c, _) => c = 'e' || c = 'f').mapM fun (c, w) =>
      script c w
    let (scripts, files) : Except String (List Raw) × List Raw := match given, chosen.operands with
      | .ok [], script :: files => (.ok [script], files)
      | given, files => (given, files)
    match scripts with
    | .error why => (.exited 1, x.say ("sed: couldn't open file: " ++ why))
    | .ok [] => (.exited 1, x.say "Usage: sed [OPTION]... [script] [input-file]...")
    | .ok scripts =>
      let extended := chosen.has 'E' || chosen.has 'r'
      match Editor.ofText extended (['\n'].intercalate scripts) with
      | .error why => (.exited 1, x.say ("sed: -e expression #1: " ++ why))
      | .ok program =>
        let silent := chosen.has 'n' ||
          ((scripts.headD []).take 3 = ['#', 'n', '\n'] || scripts.headD [] = ['#', 'n'])
        let program := program.zipIdx
        let host := (writtenFiles program).foldl
          (fun h file => match h.newPlace file with
            | .ok place => if file.take 5 = "/dev/".toList then h else h.writeFile place []
            | .error _ => h)
          x.host
        let x := x.withHost host
        match ending with
        | some ending => editInPlace silent ending program files 0 x
        | none =>
          let (found, after) := texts files x
          let (failure, after) := found.foldl
            (fun (status, x) (name, text) =>
              match text with
              | .ok _ => (status, x)
              | .error why =>
                let what := if why = "Is a directory" then "read error on " else "can't read "
                (2, x.say ("sed: " ++ what ++ shown name ++ ": " ++ why)))
            (0, after)
          match edit silent program after.host (linesOfTexts found) with
          | none => (.cutOff, after)
          | some (status, isOut, e) =>
            let after := if isOut then after.contentAs x else after
            let after := (after.withHost { e.host with streams := after.host.streams }).write 1
              e.written.reverse.flatten
            (.exited (if status ≠ 0 then status else failure), after)

end Tools

end ProfiledBuild
