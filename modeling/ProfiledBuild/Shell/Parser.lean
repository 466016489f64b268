import ProfiledBuild.Shell.Token

/-! Reading shell scripts. A script is read line by line, because the lines before a fault are
run. -/

namespace ProfiledBuild.Shell

abbrev Tokens := List (Nat × Token)

abbrev Parsed (α : Type) := α × Tokens

abbrev Checked (α : Type) := Except SyntaxFault α

/-- The word that a token spells, if it is a single unquoted piece. -/
def Token.bare? : Token → Option Raw
  | .word [.text s false] => some s
  | _ => none

def reserved : List String :=
  ["if", "then", "elif", "else", "fi", "while", "until", "do", "done", "for", "in", "case",
    "esac", "\x7b", "\x7d", "!"]

def Token.reserved? (t : Token) : Option String := do
  let s := String.ofList (← t.bare?)
  if reserved.contains s then some s else none

def Token.describe (t : Token) : String :=
  match t with
  | .operator "\n" => "newline"
  | .operator o => "\"" ++ o ++ "\""
  | .redirect .. => "redirection"
  | .here .. => "redirection"
  | .body _ => "word"
  | .fault m => m
  | .word _ =>
    match t.reserved? with
    | some r => "\"" ++ r ++ "\""
    | none => "word"

/-- What a script is read with: the number of its last line, and the texts that stand for words where
a command begins. -/
structure Setting where
  lastLine : Nat
  aliases : List (Raw × Raw)

namespace Setting

def size (g : Setting) : Nat := (g.aliases.map fun (_, text) => text.length).foldl (· + ·) 0

def text? (g : Setting) (w : Raw) : Option Raw :=
  if g.aliases.isEmpty || reserved.contains (String.ofList w) then none else g.aliases.lookup w

/-- A word that does not stand for another text again. -/
def shielded (names : List Raw) : Nat × Token → Nat × Token
  | (n, .word [.text w false]) =>
    (n, .word (if names.contains w then [.text w false, .text [] false] else [.text w false]))
  | token => token

/-- The tokens of a text in the place of the word at the front of others. A text that ends with a
blank lets the next word stand for a text, too. -/
def withAliases (g : Setting) (used : List Raw) : Nat → Tokens → Tokens
  | 0, tokens => tokens
  | fuel + 1, tokens =>
    match tokens with
    | (n, .word [.text w false]) :: rest =>
      match if used.contains w then none else g.text? w with
      | none => tokens
      | some text =>
        let used := w :: used
        let own := (tokensOf text).map fun (_, t) => shielded used (n, t)
        let rest := if text.getLast? = some ' ' || text.getLast? = some '\t'
          then g.withAliases [] fuel rest else rest
        g.withAliases used fuel (own ++ rest)
    | tokens => tokens

end Setting

def unexpected (g : Setting) (expecting : Option String) : Tokens → Checked (Parsed α)
  | [] => .error ⟨g.lastLine, "end of file unexpected" ++ wanted⟩
  | (n, .fault m) :: _ => .error ⟨n, m⟩
  | (n, t) :: _ => .error ⟨n, t.describe ++ " unexpected" ++ wanted⟩
where
  wanted : String :=
    match expecting with
    | some e => " (expecting \"" ++ e ++ "\")"
    | none => ""

def skipNewlines : Tokens → Tokens
  | (_, .operator "\n") :: rest => skipNewlines rest
  | tokens => tokens

def expect (g : Setting) (name : String) : Tokens → Except SyntaxFault Tokens
  | (n, t) :: rest =>
    if t.reserved? = some name then .ok rest
    else (unexpected (α := Unit) g (some name) ((n, t) :: rest)).map (·.2)
  | [] => (unexpected (α := Unit) g (some name) []).map (·.2)

def assignment? : Word → Option (Raw × Word)
  | .text s false :: rest =>
    let name := s.takeWhile isNameChar
    match name, s.drop name.length with
    | c :: _, '=' :: value =>
      if isNameStart c then
        some (name, if value = [] then rest else .text value false :: rest)
      else none
    | _, _ => none
  | _ => none

def redirects (g : Setting) : Nat → Tokens → Checked (Parsed (List Redirect))
  | fuel + 1, (_, .redirect d k) :: (_, .word w) :: rest => do
    let (more, rest) ← redirects g fuel rest
    return (⟨d, k, w⟩ :: more, rest)
  | _ + 1, (_, .redirect ..) :: rest => unexpected g none rest
  | _, tokens => .ok ([], tokens)

/-- The words and redirections of a simple command. Assignments stand before the first word, which
may stand for another text. -/
def simpleParts (g : Setting) (atFront : Bool) : Nat → Tokens →
    Checked (Parsed (List (Raw × Word) × List Word × List Redirect))
  | 0, tokens => .ok (([], [], []), tokens)
  | fuel + 1, tokens =>
    match if atFront then g.withAliases [] (g.aliases.length + 1) tokens else tokens with
    | (_, .word w) :: rest => do
      match if atFront then assignment? w else none with
      | some a =>
        let ((assignments, words, redirects), rest) ← simpleParts g true fuel rest
        return ((a :: assignments, words, redirects), rest)
      | none =>
        let ((assignments, words, redirects), rest) ← simpleParts g false fuel rest
        return ((assignments, w :: words, redirects), rest)
    | (_, .redirect d k) :: (_, .word w) :: rest => do
      let ((assignments, words, redirects), rest) ← simpleParts g atFront fuel rest
      return ((assignments, words, ⟨d, k, w⟩ :: redirects), rest)
    | (_, .redirect ..) :: rest => unexpected g none rest
    | tokens => .ok (([], [], []), tokens)

def wordList : Tokens → List Word × Tokens
  | (_, .word w) :: rest =>
    let (ws, rest) := wordList rest
    (w :: ws, rest)
  | rest => ([], rest)

def armPatterns (g : Setting) : Tokens → Checked (Parsed (List Word))
  | (_, .word w) :: (_, .operator "|") :: rest => do
    let (ws, rest) ← armPatterns g rest
    return (w :: ws, rest)
  | (_, .word w) :: (_, .operator ")") :: rest => .ok ([w], rest)
  | (_, .word _) :: rest => unexpected g (some ")") rest
  | rest => unexpected g none rest

def functionName? (t : Token) : Option Raw :=
  t.bare?.filter fun name => name.head?.any isNameStart && name.all isNameChar

def startsWith (tokens : Tokens) (names : List String) : Bool :=
  match tokens with
  | (_, t) :: _ =>
    match t.reserved? with
    | some r => names.contains r
    | none => false
  | [] => false

mutual

def andOr (g : Setting) : Nat → Tokens → Checked (Parsed Command)
  | 0, tokens => unexpected g none tokens
  | fuel + 1, tokens => do
    let (first, rest) ← pipeline g fuel tokens
    andOrRest g first fuel rest

def andOrRest (g : Setting) (left : Command) : Nat → Tokens → Checked (Parsed Command)
  | fuel + 1, (_, .operator "&&") :: rest => do
    let (right, rest) ← pipeline g fuel (skipNewlines rest)
    andOrRest g (.and left right) fuel rest
  | fuel + 1, (_, .operator "||") :: rest => do
    let (right, rest) ← pipeline g fuel (skipNewlines rest)
    andOrRest g (.or left right) fuel rest
  | _, tokens => .ok (left, tokens)

def pipeline (g : Setting) : Nat → Tokens → Checked (Parsed Command)
  | 0, tokens => unexpected g none tokens
  | fuel + 1, tokens =>
    if startsWith tokens ["!"] then
      if startsWith tokens.tail ["!"] then unexpected g none tokens.tail
      else do
        let (c, rest) ← pipeline g fuel tokens.tail
        return (.not c, rest)
    else do
      let (first, rest) ← command g fuel tokens
      match rest with
      | (_, .operator "|") :: rest => do
        let (second, rest) ← pipeline g fuel (skipNewlines rest)
        return (.pipe first second, rest)
      | rest => return (first, rest)

/-- One command: a compound one with its redirections, or a simple one. -/
def command (g : Setting) : Nat → Tokens → Checked (Parsed Command)
  | 0, tokens => unexpected g none tokens
  | fuel + 1, tokens =>
    match g.withAliases [] (g.aliases.length + 1) tokens with
    | [] => unexpected g none []
    | (_, .operator "(") :: rest => do
      let (body, rest) ← block g [] fuel rest
      match rest with
      | (_, .operator ")") :: rest => do
        let (rs, rest) ← redirects g rest.length rest
        return (.redirected (.subshell body) rs, rest)
      | rest => unexpected g (some ")") rest
    | (n, t) :: rest =>
      match t.reserved? with
      | some "if" => do
        let (c, rest) ← conditional g fuel rest
        let (rs, rest) ← redirects g rest.length rest
        return (.redirected c rs, rest)
      | some "while" => do
        let (c, rest) ← loopRest g false fuel rest
        let (rs, rest) ← redirects g rest.length rest
        return (.redirected c rs, rest)
      | some "until" => do
        let (c, rest) ← loopRest g true fuel rest
        let (rs, rest) ← redirects g rest.length rest
        return (.redirected c rs, rest)
      | some "for" => do
        let (c, rest) ← eachRest g fuel rest
        let (rs, rest) ← redirects g rest.length rest
        return (.redirected c rs, rest)
      | some "case" => do
        let (c, rest) ← selection g fuel rest
        let (rs, rest) ← redirects g rest.length rest
        return (.redirected c rs, rest)
      | some "\x7b" => do
        let (body, rest) ← block g ["\x7d"] fuel rest
        let rest ← expect g "\x7d" rest
        let (rs, rest) ← redirects g rest.length rest
        return (.redirected body rs, rest)
      | some _ => unexpected g none ((n, t) :: rest)
      | none =>
        match functionName? t, rest with
        | some name, (_, .operator "(") :: (_, .operator ")") :: rest => do
          let (body, rest) ← command g fuel (skipNewlines rest)
          return (.define name body, rest)
        | _, _ => do
        let room := (rest.length + 2) * (g.size + 1)
        let ((assignments, words, rs), rest') ← simpleParts g true room ((n, t) :: rest)
        if assignments.isEmpty && words.isEmpty && rs.isEmpty then
          unexpected g none ((n, t) :: rest)
        else return (.simple n assignments words rs, rest')

/-- Commands up to a reserved word or a closing parenthesis; there is at least one. -/
def block (g : Setting) (stops : List String) : Nat → Tokens → Checked (Parsed Command)
  | 0, tokens => unexpected g none tokens
  | fuel + 1, tokens => do
    let (first, rest) ← listItem g fuel (skipNewlines tokens)
    let (more, rest) ← blockRest g stops fuel rest
    return (.sequence (first :: more), rest)

def blockRest (g : Setting) (stops : List String) : Nat → Tokens → Checked (Parsed (List Command))
  | 0, tokens => .ok ([], tokens)
  | fuel + 1, tokens =>
    let next (rest : Tokens) : Checked (Parsed (List Command)) :=
      let rest := skipNewlines rest
      match rest with
      | [] => .ok ([], [])
      | (_, .operator ")") :: _ => .ok ([], rest)
      | (_, .operator ";;") :: _ => .ok ([], rest)
      | _ =>
        if startsWith rest stops then .ok ([], rest)
        else do
          let (c, rest) ← listItem g fuel rest
          let (more, rest) ← blockRest g stops fuel rest
          return (c :: more, rest)
    match tokens with
    | (_, .operator ";") :: rest => next rest
    | (_, .operator "\n") :: rest => next rest
    | tokens => .ok ([], tokens)

def listItem (g : Setting) : Nat → Tokens → Checked (Parsed Command)
  | 0, tokens => unexpected g none tokens
  | fuel + 1, tokens => do
    let (c, rest) ← andOr g fuel tokens
    match rest with
    | (n, .operator "&") :: rest => return (.background c, (n, .operator ";") :: rest)
    | rest => return (c, rest)

def conditional (g : Setting) : Nat → Tokens → Checked (Parsed Command)
  | 0, tokens => unexpected g none tokens
  | fuel + 1, tokens => do
    let (condition, rest) ← block g ["then"] fuel tokens
    let rest ← expect g "then" rest
    let (yes, rest) ← block g ["elif", "else", "fi"] fuel rest
    if startsWith rest ["elif"] then do
      let (no, rest) ← conditional g fuel rest.tail
      return (.branch condition yes no, rest)
    else if startsWith rest ["else"] then do
      let (no, rest) ← block g ["fi"] fuel rest.tail
      let rest ← expect g "fi" rest
      return (.branch condition yes no, rest)
    else do
      let rest ← expect g "fi" rest
      return (.branch condition yes (.sequence []), rest)

def loopRest (g : Setting) (untilTrue : Bool) : Nat → Tokens → Checked (Parsed Command)
  | 0, tokens => unexpected g none tokens
  | fuel + 1, tokens => do
    let (condition, rest) ← block g ["do"] fuel tokens
    let (body, rest) ← doBlock g fuel rest
    return (.loop untilTrue condition body, rest)

def doBlock (g : Setting) : Nat → Tokens → Checked (Parsed Command)
  | 0, tokens => unexpected g none tokens
  | fuel + 1, tokens => do
    let rest ← expect g "do" (skipNewlines tokens)
    let (body, rest) ← block g ["done"] fuel rest
    let rest ← expect g "done" rest
    return (body, rest)

def eachRest (g : Setting) : Nat → Tokens → Checked (Parsed Command)
  | 0, tokens => unexpected g none tokens
  | fuel + 1, tokens =>
    match tokens with
    | (n, t) :: rest =>
      match t.bare? with
      | none => unexpected g none ((n, t) :: rest)
      | some name =>
        if (functionName? t).isNone then .error ⟨n, "Bad for loop variable"⟩
        else
        let rest := skipNewlines rest
        if startsWith rest ["in"] then
          let (words, rest) := wordList rest.tail
          match rest with
          | (_, .operator ";") :: rest => do
            let (body, rest) ← doBlock g fuel rest
            return (.each name (some words) body, rest)
          | (_, .operator "\n") :: rest => do
            let (body, rest) ← doBlock g fuel rest
            return (.each name (some words) body, rest)
          | rest => unexpected g (some "do") rest
        else
          let rest := match rest with
            | (_, .operator ";") :: rest => rest
            | rest => rest
          do
            let (body, rest) ← doBlock g fuel rest
            return (.each name none body, rest)
    | [] => unexpected g none []

def selection (g : Setting) : Nat → Tokens → Checked (Parsed Command)
  | 0, tokens => unexpected g none tokens
  | fuel + 1, tokens =>
    match tokens with
    | (_, .word w) :: rest => do
      let rest ← expect g "in" (skipNewlines rest)
      let (found, rest) ← arms g fuel (skipNewlines rest)
      return (.select w found, rest)
    | tokens => unexpected g none tokens

def arms (g : Setting) : Nat → Tokens → Checked (Parsed (List (List Word × Command)))
  | 0, tokens => unexpected g none tokens
  | fuel + 1, tokens =>
    if startsWith tokens ["esac"] then .ok ([], tokens.tail)
    else do
      let opened := match tokens with
        | (_, .operator "(") :: rest => rest
        | tokens => tokens
      let (patterns, rest) ← armPatterns g opened
      let rest := skipNewlines rest
      let (body, rest) ← match rest with
        | (_, .operator ";;") :: _ => Except.ok (Command.sequence [], rest)
        | _ =>
          if startsWith rest ["esac"] then Except.ok (Command.sequence [], rest)
          else block g ["esac"] fuel rest
      match rest with
      | (_, .operator ";;") :: rest => do
        let (more, rest) ← arms g fuel (skipNewlines rest)
        return ((patterns, body) :: more, rest)
      | rest => do
        let rest ← expect g "esac" rest
        return ([(patterns, body)], rest)

end

def lineRest (g : Setting) (fuel : Nat) : Nat → Tokens → Checked (Parsed (List Command))
  | 0, tokens => .ok ([], tokens)
  | count + 1, tokens =>
    match tokens with
    | [] => .ok ([], [])
    | (_, .operator "\n") :: rest => .ok ([], rest)
    | (_, .operator ";") :: [] => .ok ([], [])
    | (_, .operator ";") :: (_, .operator "\n") :: rest => .ok ([], rest)
    | (_, .operator ";") :: rest => do
      let (c, rest) ← listItem g fuel rest
      let (more, rest) ← lineRest g fuel count rest
      return (c :: more, rest)
    | tokens => unexpected g none tokens

/-- What a script does next: a whole line, and the tokens after it. Nothing is left to do at the end
of the script. Every level of a command takes a bounded number of calls for each of its tokens. -/
def nextLine (g : Setting) (tokens : Tokens) : Checked (Option (Parsed Command)) :=
  match skipNewlines tokens with
  | [] => .ok none
  | tokens => do
    let fuel := 16 * (tokens.length + 1) * (g.size + 1)
    let (c, rest) ← listItem g fuel tokens
    let (more, rest) ← lineRest g fuel (tokens.length * (g.size + 1) + 1) rest
    return some (if more.isEmpty then c else .sequence (c :: more), rest)

end ProfiledBuild.Shell
