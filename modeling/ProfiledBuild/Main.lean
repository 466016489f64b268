import ProfiledBuild.Program

/-! The command line. It gathers what the program needs to know of the machine it runs on, and
writes what the program answers. -/

namespace ProfiledBuild.Machine

def variableNames : List String := [Program.filterVariable, "PATH", "HOME", "LANG", "LC_ALL"]

def environment : IO (List (Octets × Octets)) :=
  variableNames.filterMapM fun name => do
    return (← IO.getEnv name).map fun value => (Utf8.encode name, Utf8.encode value)

/-- Larger files are no scripts. -/
def largestScript : UInt64 := 65536

def isScript (contents : Octets) : Bool := contents.take 2 = Utf8.encode "#!"

def files : IO (List (Octets × Octets × Bool)) := do
  (← (← IO.currentDir).readDir).toList.filterMapM fun entry => do
    match ← entry.path.metadata.toBaseIO with
    | .error _ => return none
    | .ok facts =>
      if facts.type != .file || largestScript < facts.byteSize then return none
      else match ← (IO.FS.readBinFile entry.path).toBaseIO with
        | .error _ => return none
        | .ok bytes =>
          let contents := bytes.data.toList
          return some (Utf8.encode entry.fileName, contents, isScript contents)

/-- All of the input, unless a person would have to type it. -/
def input : IO Octets := do
  let stream ← IO.getStdin
  if ← stream.isTty then return []
  else return Utf8.encode (← stream.readToEnd)

def now : IO Timestamp :=
  IO.FS.withTempFile fun _ path => do
    let time := (← path.metadata).modified
    return (Timestamp.ofEpoch? time.sec time.nsec.toNat).getD default

def random : IO UInt64 := do
  return (← IO.getRandomBytes 8).data.foldl (fun n b => n * 256 + b.toUInt64) 0

def write (stream : IO.FS.Stream) (s : Octets) : IO Unit := do
  stream.write ⟨s.toArray⟩
  stream.flush

end ProfiledBuild.Machine

open ProfiledBuild in
def main (args : List String) : IO UInt32 := do
  let host := Host.ofFiles (← Machine.files) (← Machine.environment) (← Machine.input)
  let now ← Machine.now
  let id := RunId.ofRandom (← Machine.random) (← Machine.random)
  let ended := Program.run (args.map Utf8.encode) host (fun _ => now) id
  Machine.write (← IO.getStdout) ended.output
  Machine.write (← IO.getStderr) ended.errors
  match ended.finish with
  | .status octet => return octet.toUInt32
  | .signal number => return 128 + number.toUInt32
