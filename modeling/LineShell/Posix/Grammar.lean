import LineShell.Posix.Octets

namespace LineShell.Posix

/-- What an expansion makes of a parameter's value. With `colon`, an empty value counts as none. -/
inductive Treatment where
  | value
  | length
  | orElse (colon : Bool)
  | orAssign (colon : Bool)
  | ifSet (colon : Bool)
  | orFail (colon : Bool)
  /-- Without the part at its end or start that matches a pattern. -/
  | trim (atEnd longest : Bool)
  /-- There is no such expansion. -/
  | invalid
deriving Repr, DecidableEq

def Treatment.takesPattern : Treatment → Bool
  | .trim .. => true
  | _ => false

inductive RedirectOp where
  | input
  | output
  /-- Output that may replace what a file holds, whatever the settings. -/
  | replace
  | append
  | inOut
  | duplicate
  /-- The lines that follow the command; with `indented`, less the tabs in front of each. -/
  | document (indented : Bool)
deriving Repr, DecidableEq

/-- A redirection, where words are of type `W`. The target of a document is its text. -/
structure Redirect (W : Type) where
  descriptor : Nat
  op : RedirectOp
  target : W

mutual

inductive Part where
  | text (s : Octets) (quoted : Bool)
  | param (name : Octets) (treatment : Treatment) (other : List Part) (quoted : Bool)
  | arithmetic (expression : List Part) (quoted : Bool)
  /-- The output of commands. -/
  | output (body : Option Cmd) (quoted : Bool)

inductive Cmd where
  | simple (line : Nat) (assignments : List (Octets × List Part)) (words : List (List Part))
      (redirects : List (Redirect (List Part)))
  | seq (first second : Cmd)
  | both (first second : Cmd)
  | either (first second : Cmd)
  | negate (body : Cmd)
  | pipe (first second : Cmd)
  | loop (sought : Bool) (condition body : Option Cmd)
  | branch (condition yes no : Option Cmd)
  /-- The body of the first branch with a pattern that the word matches. -/
  | choose (line : Nat) (word : List Part) (branches : List (List (List Part) × Option Cmd))
  | each (line : Nat) (name : Octets) (words : Option (List (List Part))) (body : Option Cmd)
  | subshell (line : Nat) (body : Option Cmd)
  /-- Runs beside the commands after it. -/
  | background (body : Cmd)
  | define (name : Octets) (body : Cmd)
  | redirected (line : Nat) (body : Cmd) (redirects : List (Redirect (List Part)))

end

abbrev Word := List Part

namespace Word

def plainText? : Word → Option Octets
  | [] => some []
  | .text s false :: r => (plainText? r).map (s ++ ·)
  | _ => none

def assignment? (w : Word) : Option (Octets × Word) :=
  split [] w
where
  split (name : Octets) : Word → Option (Octets × Word)
    | .text [c] false :: r =>
      if c = '=' then if name.isEmpty then none else some (name.reverse, r)
      else if (if name.isEmpty then Octets.isNameStart c else Octets.isNameChar c) then
        split (c :: name) r
      else none
    | _ => none

end Word

structure Mistake where
  line : Nat
  message : String
  /-- How much of the script had not been read then. -/
  unread : Nat
deriving Repr, DecidableEq

end LineShell.Posix
