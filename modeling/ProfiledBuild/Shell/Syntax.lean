import ProfiledBuild.Text.Raw

/-! Shell scripts as trees. A word keeps apart what was quoted and what was not. -/

namespace ProfiledBuild.Shell

inductive Part where
  | text (text : Raw) (quoted : Bool)
  | parameter (name : Raw) (quoted : Bool)
  | size (name : Raw) (quoted : Bool)
  | choice (name : Raw) (unlessEmpty : Bool) (operator : Char) (word : List Part) (quoted : Bool)
  | trim (name : Raw) (atEnd longest : Bool) (pattern : List Part) (quoted : Bool)
  | substitution (script : Raw) (quoted : Bool)
  | arithmetic (text : List Part) (quoted : Bool)
  | bad

abbrev Word := List Part

inductive RedirectKind where
  | read
  | write
  | overwrite
  | append
  | both
  | duplicate
  | here
  deriving DecidableEq, Repr

structure Redirect where
  descriptor : Nat
  kind : RedirectKind
  target : Word

inductive Command where
  | simple (line : Nat) (assignments : List (Raw × Word)) (words : List Word)
      (redirects : List Redirect)
  | sequence (commands : List Command)
  | and (left right : Command)
  | or (left right : Command)
  | not (command : Command)
  | pipe (left right : Command)
  | branch (condition yes no : Command)
  | loop (untilTrue : Bool) (condition body : Command)
  | each (name : Raw) (words : Option (List Word)) (body : Command)
  | select (word : Word) (arms : List (List Word × Command))
  | redirected (command : Command) (redirects : List Redirect)
  | subshell (command : Command)
  | background (command : Command)
  | define (name : Raw) (body : Command)

instance : Inhabited Command := ⟨.sequence []⟩

/-- A script that cannot be read on: the line and what is wrong there. -/
structure SyntaxFault where
  line : Nat
  message : String
  deriving DecidableEq, Repr

end ProfiledBuild.Shell
