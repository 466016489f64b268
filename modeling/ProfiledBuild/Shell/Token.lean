import ProfiledBuild.Shell.Syntax

/-! The tokens of shell scripts. -/

namespace ProfiledBuild.Shell

/-- A text that stands in the lines after the current one, up to a delimiter. Tabs at the front of
its lines may not count, and parameters may stand for themselves. -/
structure HereText where
  delimiter : Raw
  stripped : Bool
  literal : Bool

inductive Token where
  | word (word : Word)
  | operator (text : String)
  | redirect (descriptor : Nat) (kind : RedirectKind)
  | here (descriptor : Nat) (text : HereText)
  | body (word : Word)
  | fault (message : String)

def isBlank (c : Char) : Bool := c = ' ' || c = '\t' || c = '\n'

def isNameStart (c : Char) : Bool := c.isAlpha || c = '_'

def isNameChar (c : Char) : Bool := c.isAlphanum || c = '_'

def isSpecialParameter (c : Char) : Bool :=
  c.isDigit || c = '#' || c = '@' || c = '*' || c = '?' || c = '$' || c = '!' || c = '-'

def isMeta (c : Char) : Bool :=
  c = ' ' || c = '\t' || c = '\n' || c = ';' || c = '&' || c = '|' || c = '(' || c = ')' ||
    c = '<' || c = '>'

/-- The script inside `$(` and its closing parenthesis. Quoted parentheses do not count. -/
def substitutionText : Nat → Raw → Option (Raw × Raw)
  | _, [] => none
  | depth, '\\' :: c :: rest => do
    let (inside, rest) ← substitutionText depth rest
    return ('\\' :: c :: inside, rest)
  | depth, '\'' :: rest =>
    let quoted := rest.takeWhile (· ≠ '\'')
    if quoted.length < rest.length then do
      let (inside, rest) ← substitutionText depth (rest.drop (quoted.length + 1))
      return ('\'' :: quoted ++ '\'' :: inside, rest)
    else none
  | 0, ')' :: rest => some ([], rest)
  | depth + 1, ')' :: rest => do
    let (inside, rest) ← substitutionText depth rest
    return (')' :: inside, rest)
  | depth, '(' :: rest => do
    let (inside, rest) ← substitutionText (depth + 1) rest
    return ('(' :: inside, rest)
  | depth, c :: rest => do
    let (inside, rest) ← substitutionText depth rest
    return (c :: inside, rest)
termination_by _ s => s.length
decreasing_by all_goals simp_all only [List.length_cons, List.length_drop]; omega

/-- What stands between two parentheses each, if the inner ones belong together. -/
def arithmeticText? : Raw → Option Raw
  | '(' :: inner =>
    match substitutionText 0 inner with
    | some (text, []) => some text
    | _ => none
  | _ => none

def backquoted : Raw → Option (Raw × Raw)
  | [] => none
  | '\x60' :: rest => some ([], rest)
  | '\\' :: '\x60' :: rest => do
    let (inside, rest) ← backquoted rest
    return ('\x60' :: inside, rest)
  | c :: rest => do
    let (inside, rest) ← backquoted rest
    return (c :: inside, rest)

def consText (c : Char) (quoted : Bool) : Word → Word
  | .text s q :: more =>
    if q = quoted then .text (c :: s) q :: more else .text [c] quoted :: .text s q :: more
  | more => .text [c] quoted :: more

def choiceStart : Raw → Option (Bool × Char × Raw)
  | ':' :: c :: rest => if ['-', '=', '+', '?'].contains c then some (true, c, rest) else none
  | c :: rest => if ['-', '=', '+', '?'].contains c then some (false, c, rest) else none
  | [] => none

/-- The signs for the end at which something is taken off, and whether as much as possible is. -/
def trimStart : Raw → Option (Bool × Bool × Raw)
  | '%' :: '%' :: rest => some (true, true, rest)
  | '%' :: rest => some (true, false, rest)
  | '#' :: '#' :: rest => some (false, true, rest)
  | '#' :: rest => some (false, false, rest)
  | _ => none

def parameterName : Raw → Raw × Raw
  | [] => ([], [])
  | c :: rest =>
    if isNameStart c then
      (c :: rest.takeWhile isNameChar, rest.dropWhile isNameChar)
    else if isSpecialParameter c then ([c], rest)
    else ([], c :: rest)

/-- The name of a parameter between braces, where a number may have several digits. -/
def bracedName (s : Raw) : Raw × Raw :=
  match s.takeWhile Raw.isDigit with
  | [] => parameterName s
  | digits => (digits, s.drop digits.length)

inductive Mode where
  | plain
  | quoted
  | braced (quoted : Bool)
  | text
  deriving DecidableEq, Repr

def Mode.isQuoted : Mode → Bool
  | .plain => false
  | .quoted => true
  | .braced q => q
  | .text => true

/-- The word may end with all there is. -/
def Mode.isOpen : Mode → Bool
  | .plain => true
  | .text => true
  | _ => false

mutual

def word (mode : Mode) : Nat → Raw → Except String (Word × Raw)
  | 0, _ => .error "word too long"
  | _ + 1, [] => if mode.isOpen then .ok ([], []) else .error "Unterminated quoted string"
  | fuel + 1, c :: rest =>
    if mode = .plain && isMeta c then .ok ([], c :: rest)
    else if mode = .quoted && c = '"' then .ok ([], rest)
    else if mode matches .braced _ && c = '\x7d' then .ok ([], rest)
    else match c, rest with
      | '\\', '\n' :: rest => word mode fuel rest
      | '\\', d :: rest' =>
        if !mode.isQuoted || d = '$' || d = '\x60' || (d = '"' && mode ≠ .text) || d = '\\' then do
          let (w, rest) ← word mode fuel rest'
          return (consText d true w, rest)
        else do
          let (w, rest) ← word mode fuel rest
          return (consText '\\' true w, rest)
      | '\'', rest =>
        if mode.isQuoted then do
          let (w, rest) ← word mode fuel rest
          return (consText '\'' true w, rest)
        else
          let inside := rest.takeWhile (· ≠ '\'')
          if inside.length < rest.length then do
            let (w, rest) ← word mode fuel (rest.drop (inside.length + 1))
            return (.text inside true :: w, rest)
          else .error "Unterminated quoted string"
      | '"', rest => do
        if mode = .text then
          let (w, rest) ← word mode fuel rest
          return (consText '"' true w, rest)
        let (inside, rest) ← word .quoted fuel rest
        let (w, rest) ← word mode fuel rest
        return (.text [] true :: inside ++ w, rest)
      | '\x60', rest =>
        match backquoted rest with
        | none => .error "EOF in backquote substitution"
        | some (script, rest) => do
          let (w, rest) ← word mode fuel rest
          return (.substitution script mode.isQuoted :: w, rest)
      | '$', rest => do
        let (part, rest) ← dollar mode.isQuoted fuel rest
        let (w, rest) ← word mode fuel rest
        return (part :: w, rest)
      | c, rest => do
        let (w, rest) ← word mode fuel rest
        return (consText c mode.isQuoted w, rest)

def dollar (quoted : Bool) : Nat → Raw → Except String (Part × Raw)
  | 0, _ => .error "word too long"
  | fuel + 1, s =>
    match s with
    | '(' :: rest =>
      match substitutionText 0 rest with
      | none => .error "end of file unexpected (expecting \")\")"
      | some (script, rest) =>
        match arithmeticText? script with
        | some text => do
          let (w, _) ← word .text fuel text
          return (.arithmetic w quoted, rest)
        | none => .ok (.substitution script quoted, rest)
    | '\x7b' :: '#' :: rest =>
      match bracedName rest with
      | (name@(_ :: _), '\x7d' :: rest') => .ok (.size name quoted, rest')
      | _ =>
        match rest with
        | '\x7d' :: rest => .ok (.parameter ['#'] quoted, rest)
        | _ => .error "Bad substitution"
    | '\x7b' :: rest =>
      match bracedName rest with
      | (name@(_ :: _), '\x7d' :: rest') => .ok (.parameter name quoted, rest')
      | (name@(_ :: _), rest') =>
        match trimStart rest', choiceStart rest' with
        | some (atEnd, longest, rest'), _ => do
          let (w, rest') ← word (.braced false) fuel rest'
          return (.trim name atEnd longest w quoted, rest')
        | none, none => do
          let (_, rest') ← word (.braced false) fuel rest'
          return (.bad, rest')
        | none, some (unlessEmpty, operator, rest') => do
          let (w, rest') ← word (.braced quoted) fuel rest'
          return (.choice name unlessEmpty operator w quoted, rest')
      | _ => .error "Bad substitution"
    | s =>
      match parameterName s with
      | ([], _) => .ok (.text ['$'] quoted, s)
      | (name, rest) => .ok (.parameter name quoted, rest)

end

def operators : List String := ["&&", "||", ";;", ";", "&", "|", "(", ")"]

def operator? (s : Raw) : Option (String × Raw) :=
  (operators.find? fun o => o.toList.isPrefixOf s).map fun o => (o, s.drop o.length)

/-- A redirection at the front of a text, after its descriptor if it has one. -/
def redirect? (descriptor : Option Nat) : Raw → Option (Token × Raw)
  | '>' :: '>' :: rest => some (.redirect (descriptor.getD 1) .append, rest)
  | '>' :: '&' :: rest => some (.redirect (descriptor.getD 1) .duplicate, rest)
  | '>' :: '|' :: rest => some (.redirect (descriptor.getD 1) .overwrite, rest)
  | '>' :: rest => some (.redirect (descriptor.getD 1) .write, rest)
  | '<' :: '&' :: rest => some (.redirect (descriptor.getD 0) .duplicate, rest)
  | '<' :: '>' :: rest => some (.redirect (descriptor.getD 0) .both, rest)
  | '<' :: rest => some (.redirect (descriptor.getD 0) .read, rest)
  | _ => none

def numberedRedirect? : Raw → Option (Token × Raw)
  | c :: rest =>
    if c.isDigit then redirect? (Raw.number? [c]) rest else redirect? none (c :: rest)
  | [] => none

/-- A text in later lines is asked for by its delimiter, which may be quoted. -/
def here? (descriptor : Nat) : Raw → Option (Nat × HereText × Raw)
  | '<' :: '<' :: rest =>
    let (stripped, rest) := match rest with
      | '-' :: rest => (true, rest)
      | rest => (false, rest)
    let word := (rest.dropWhile fun c => c = ' ' || c = '\t').takeWhile fun c => !isMeta c
    let rest := (rest.dropWhile fun c => c = ' ' || c = '\t').drop word.length
    let isQuote (c : Char) : Bool := c = '\'' || c = '"' || c = '\\'
    if word = [] then none
    else some (descriptor, ⟨word.filter (!isQuote ·), stripped, word.any isQuote⟩, rest)
  | _ => none

def numberedHere? : Raw → Option (Nat × HereText × Raw)
  | c :: rest =>
    if c.isDigit then here? ((Raw.number? [c]).getD 0) rest else here? 0 (c :: rest)
  | [] => none

def HereText.read (h : HereText) : Nat → Raw → Raw × Raw
  | 0, s => ([], s)
  | _, [] => ([], [])
  | fuel + 1, s =>
    let line := s.takeWhile (· ≠ '\n')
    let kept := if h.stripped then line.dropWhile (· = '\t') else line
    if kept = h.delimiter then ([], s.drop (line.length + 1))
    else if line.length = s.length then (kept, [])
    else
      let (text, rest) := h.read fuel (s.drop (line.length + 1))
      (kept ++ '\n' :: text, rest)

def HereText.token (h : HereText) (text : Raw) : Token :=
  if h.literal then .body [.text text true]
  else match word .text (2 * text.length + 2) text with
    | .ok (w, _) => .body w
    | .error message => .fault message

def countLines (consumed : Raw) : Nat := consumed.count '\n'

/-- The texts that have been asked for, one after the other, and what follows them. -/
def bodies (line : Nat) : List HereText → Raw → List (Nat × Token) × Nat × Raw
  | [], s => ([], line, s)
  | h :: more, s =>
    let (text, rest) := h.read (s.length + 1) s
    let after := line + countLines (s.take (s.length - rest.length))
    let (tokens, line', rest) := bodies after more rest
    ((line, h.token text) :: tokens, line', rest)

/-- The tokens of a text with their line numbers. A fault ends them. Texts that have been asked for
follow at the end of the line. -/
def tokens : Nat → Nat → List HereText → Raw → List (Nat × Token)
  | 0, _, _, _ => []
  | _, _, _, [] => []
  | fuel + 1, line, asked, c :: s =>
    if c = ' ' || c = '\t' then tokens fuel line asked s
    else if c = '\n' then
      let (found, next, rest) := bodies (line + 1) asked s
      found ++ (line, .operator "\n") :: tokens fuel next [] rest
    else if c = '#' then tokens fuel line asked (s.dropWhile (· ≠ '\n'))
    else match c, s with
      | '\\', '\n' :: s => tokens fuel (line + 1) asked s
      | _, _ =>
        match numberedHere? (c :: s), numberedRedirect? (c :: s) with
        | some (descriptor, text, rest), _ =>
          (line, .here descriptor text) :: tokens fuel line (asked ++ [text]) rest
        | none, some (token, rest) => (line, token) :: tokens fuel line asked rest
        | none, none =>
          match operator? (c :: s) with
          | some (o, rest) => (line, .operator o) :: tokens fuel line asked rest
          | none =>
            match word .plain (2 * (c :: s).length + 2) (c :: s) with
            | .error message => [(line + countLines (c :: s), .fault message)]
            | .ok (w, rest) =>
              let consumed := (c :: s).take ((c :: s).length - rest.length)
              (line, .word w) :: tokens fuel (line + countLines consumed) asked rest

def attached : List Word → List (Nat × Token) → List (Nat × Token)
  | _, [] => []
  | texts, (_, .body _) :: rest => attached texts rest
  | texts, (n, .here d _) :: rest =>
    (n, .redirect d .here) :: (n, .word (texts.headD [])) :: attached texts.tail rest
  | texts, token :: rest => token :: attached texts rest

def tokensOf (s : Raw) : List (Nat × Token) :=
  let all := tokens (s.length + 1) 1 [] s
  attached (all.filterMap fun
    | (_, .body w) => some w
    | _ => none) all

end ProfiledBuild.Shell
