import ProfiledBuild.Host.Links

/-! What tools read: texts by their names, and what is in a name. -/

namespace ProfiledBuild.Tools

def parentPath (path : Raw) : Raw :=
  let bare := path.reverse.dropWhile (· = '/')
  let above := bare.dropWhile (· ≠ '/')
  if bare = [] then (if path = [] then ['.'] else ['/'])
  else if above = [] then ['.']
  else match above.dropWhile (· = '/') with
    | [] => ['/']
    | parent => parent.reverse

def withoutEnding (ending name : Raw) : Raw :=
  if ending ≠ name && ending.isSuffixOf name then name.take (name.length - ending.length) else name

/-- The last names on paths, without an ending that is the same for all. A second operand is the
ending for the first one, unless there may be several paths. -/
def basename : Tool := fun args =>
  withOperands "basename" ⟨['a', 'z'], ['s'], [("multiple", 'a'), ("suffix", 's'), ("zero", 'z')]⟩
    args fun chosen x =>
      let lineEnd := if chosen.has 'z' then '\x00' else '\n'
      let several := chosen.has 'a' || chosen.has 's'
      let write (ending : Raw) (paths : List Raw) : Ending × Context :=
        let names := paths.map fun path => withoutEnding ending (lastName path) ++ [lineEnd]
        (.exited 0, x.write 1 names.flatten)
      match several, chosen.operands with
      | false, [path, ending] => write ending [path]
      | false, _ :: _ :: extra :: _ => misused "basename" ("extra operand " ++ quoted extra) x
      | _, paths => write ((chosen.word? 's').getD []) paths

def dirname : Tool := fun args =>
  withOperands "dirname" ⟨['z'], [], [("zero", 'z')]⟩ args fun chosen x =>
    let lineEnd := if chosen.has 'z' then '\x00' else '\n'
    (.exited 0, x.write 1 (chosen.operands.flatMap fun p => parentPath p ++ [lineEnd]))

def contents (h : Host) (path : Raw) : Except String Raw :=
  match h.lookup path with
  | .ok (.file text _) => .ok text
  | .ok .directory => .error "Is a directory"
  | .ok (.device d) => .ok (Host.deviceText d)
  | .ok _ => .ok []
  | .error e => .error (missingFile e)

/-- A dash stands for the input, and so does no name at all. -/
def named (names : List Raw) : List Raw := if names = [] then [['-']] else names

def texts (names : List Raw) (x : Context) : List (Raw × Except String Raw) × Context :=
  (named names).foldl
    (fun (found, x) name =>
      if name = ['-'] then
        let (text, x) := x.readAll
        (found ++ [(name, .ok text)], x)
      else (found ++ [(name, contents x.host name)], x))
    ([], x)

/-- What is lost of the input is missed no more than before. -/
def Context.contentAs (x before : Context) : Context :=
  match x.descriptors.channel 0 with
  | .stream id =>
    let wanted := (before.host.streams.lookup id).any (·.isWanting)
    let streams := x.host.streams.map fun (n, q) =>
      (n, if n = id then { q with isWanting := wanted } else q)
    { x with host := { x.host with streams := streams } }
  | _ => x

/-- Says which texts could not be read. The status is that of a failure if there are any. -/
def sayFailures (label : String) (status : Nat) (found : List (Raw × Except String Raw))
    (x : Context) : Nat × Context :=
  found.foldl
    (fun (before, x) (name, text) =>
      match text with
      | .ok _ => (before, x)
      | .error why => (status, x.say (label ++ shown name ++ ": " ++ why)))
    (0, x)

def eachText (tool : String) (names : List Raw) (written : Raw → Raw) (x : Context) :
    Ending × Context :=
  let (found, x) := texts names x
  let (status, x) := found.foldl
    (fun (status, x) (name, text) =>
      match text with
      | .ok text => (status, x.write 1 (written text))
      | .error why => (1, x.say (tool ++ ": " ++ shown name ++ ": " ++ why)))
    (0, x)
  (.exited status, x)

/-- The lines of a text with their ends; the last one may have none. -/
def endedLines (text : Raw) : List Raw :=
  match (Raw.splitOn '\n' text).reverse with
  | [] => []
  | last :: rest =>
    rest.reverse.map (· ++ ['\n']) ++ if last = [] then [] else [last]

end ProfiledBuild.Tools
