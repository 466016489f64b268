import ProfiledBuild.Shell.State

/-! Where descriptors lead after a redirection. -/

namespace ProfiledBuild.Shell

def opened (place : List Raw) (offset : Nat) (appends : Bool) (s : State) : Channel × State :=
  let id := s.host.freshCursor
  (.cursor id, { s with host := s.host.setCursor id ⟨place, offset, appends⟩ })

def namedChannel? (path : Raw) (s : State) : Option Channel :=
  match String.ofList path with
  | "/dev/stdin" => some (s.descriptors.channel 0)
  | "/dev/stdout" => some (s.descriptors.channel 1)
  | "/dev/stderr" => some (s.descriptors.channel 2)
  | _ =>
    if "/dev/fd/".toList.isPrefixOf path then
      (Raw.number? (path.drop 8)).map s.descriptors.channel
    else none

/-- Opens a file that is to be written; one that is not there yet is made. What is in it may be
kept. Only what is no file may be written over if the shell is told so. -/
def openForWriting (keep appends : Bool) (guarded : Bool) (path : Raw) (s : State) :
    Except String (Channel × State) :=
  let failure (why : String) : Except String (Channel × State) :=
    .error ("cannot create " ++ Tools.shown path ++ ": " ++ why)
  match namedChannel? path s with
  | some .closed => failure "No such device or address"
  | some channel => .ok (channel, s)
  | none =>
    match s.host.lookup path, s.host.place path with
    | .ok .directory, _ => failure "Is a directory"
    | .ok (.tool _), _ => failure "Text file busy"
    | .ok (.device d), _ => .ok (.device d, s)
    | .ok _, .ok place =>
      if guarded then failure "File exists"
      else .ok (opened place 0 appends
        (if keep then s else { s with host := s.host.writeFile place [] }))
    | _, _ =>
      match s.host.newPlace path with
      | .ok place => .ok (opened place 0 appends { s with host := s.host.writeFile place [] })
      | .error e =>
        failure (if e = .notFound then "Directory nonexistent" else Tools.missingFile e)

def openForReading (path : Raw) (s : State) : Except String (Channel × State) :=
  let failure (why : String) : Except String (Channel × State) :=
    .error ("cannot open " ++ Tools.shown path ++ ": " ++ why)
  match namedChannel? path s with
  | some .closed => failure "No such file"
  | some channel => .ok (channel, s)
  | none =>
    match s.host.lookup path, s.host.place path with
    | .ok (.file ..), .ok place => .ok (opened place 0 false s)
    | .ok (.device d), _ => .ok (.device d, s)
    | .ok _, _ => .ok (.nowhere, s)
    | .error e, _ => failure (if e = .notFound then "No such file" else Tools.missingFile e)

/-- A descriptor is named by one digit; a dash stands for none at all. -/
def isDescriptor : Raw → Bool
  | [c] => Raw.isDigit c || c = '-'
  | _ => false

/-- Where a descriptor leads after a redirection. For a text in the script that text is the
target. -/
def redirect (descriptor : Nat) (kind : RedirectKind) (target : Raw) (s : State) :
    Except String State := do
  if kind = .duplicate ∧ target = ['-'] then
    return { s with descriptors := s.descriptors.close descriptor }
  let (channel, s) ← match kind with
    | .read => openForReading target s
    | .write => openForWriting false false (s.manner.has 'C') target s
    | .overwrite => openForWriting false false false target s
    | .append => openForWriting true true false target s
    | .both => openForWriting true false false target s
    | .here =>
      let id := s.host.freshStream
      .ok (.stream id, { s with host := s.host.setStream id target })
    | .duplicate =>
      match (Raw.number? target).bind (s.descriptors.lookup ·) with
      | some channel => .ok (channel, s)
      | none => .error (Tools.shown target ++ ": Bad file descriptor")
  return { s with descriptors := s.descriptors.set descriptor channel }

def dropped (h : Host) : Channel → Host
  | .stream id => h.dropStream id
  | .cursor id => { h with cursors := h.cursors.filter (·.1 ≠ id) }
  | _ => h

/-- Lets descriptors lead again to where they led before they were redirected. What has been opened
for them is not used any more. -/
def restored (redirects : List Redirect) (before : Descriptors) (s : State) : State :=
  if redirects.isEmpty then s
  else
    let numbers := redirects.map (·.descriptor)
    let kept := s.descriptors.filter fun (n, _) => !numbers.contains n
    let back := before.filter fun (n, _) => numbers.contains n
    let now := back ++ kept
    let lost := s.descriptors.filter fun (n, c) =>
      numbers.contains n && !before.any (·.2 = c) && !now.any (·.2 = c)
    { s with descriptors := now, host := lost.foldl (fun h (_, c) => dropped h c) s.host }

end ProfiledBuild.Shell
