import ProfiledBuild.Host.Printf

/-! Words written out as they are. -/

namespace ProfiledBuild.Tools

def spaced (words : List Raw) : Raw := [' '].intercalate words

/-- What `echo` writes: the words, and a line end unless told otherwise. -/
def echoText (interpret newline : Bool) (words : List Raw) : Raw :=
  let text := spaced words
  if interpret then
    let (text, stop) := unescape true text
    if newline && !stop then text ++ ['\n'] else text
  else if newline then text ++ ['\n'] else text

/-- The options at the front of the words of `echo`: line end and escapes. -/
def echoOptions (newline interpret : Bool) : List Raw → Bool × Bool × List Raw
  | [] => (newline, interpret, [])
  | w :: rest =>
    match w with
    | '-' :: letters =>
      if letters ≠ [] ∧ letters.all fun c => c = 'n' || c = 'e' || c = 'E' then
        let interpret := letters.foldl
          (fun i c => if c = 'e' then true else if c = 'E' then false else i) interpret
        echoOptions (newline && !letters.contains 'n') interpret rest
      else (newline, interpret, w :: rest)
    | _ => (newline, interpret, w :: rest)

def echo : Tool := fun words x =>
  let (newline, interpret, words) := echoOptions true false words
  (.exited 0, x.write 1 (echoText interpret newline words))

end ProfiledBuild.Tools
