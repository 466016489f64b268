import ProfiledBuild.Text.Bracket

/-! File name patterns, which are read as regular expressions over octets. -/

namespace ProfiledBuild.Pattern

/-- The parts of a file name pattern; quoted characters stand for themselves. -/
def nameParts : Nat → List (Char × Bool) → List Regex
  | 0, _ => []
  | _, [] => []
  | fuel + 1, (c, quoted) :: s =>
    if quoted then .chars (.single c) :: nameParts fuel s
    else match c with
      | '*' => .star true .any :: nameParts fuel s
      | '?' => .any :: nameParts fuel s
      | '[' =>
        match Bracket.read ['!'] (s.map (·.1)) with
        | some (set, rest) => .chars set :: nameParts fuel (s.drop (s.length - rest.length))
        | none => .chars (.single '[') :: nameParts fuel s
      | c => .chars (.single c) :: nameParts fuel s

def matchesName (pattern : List (Char × Bool)) (name : Raw) : Bool :=
  (Regex.concat (nameParts pattern.length pattern)).matchesWhole name

def isSpecial (pattern : List (Char × Bool)) : Bool :=
  pattern.any fun (c, quoted) => !quoted && (c = '*' || c = '?' || c = '[')

end ProfiledBuild.Pattern
