import LineShell.CommandLine.Flag
import LineShell.Text.Digit

namespace LineShell.CommandLine

inductive Word where
  | plain (text : String)
  /-- The word of two dashes. -/
  | separator
  /-- A flag, whether it is written as a letter, and what is attached to it. -/
  | flag (flag : Flag) (short : Bool) (value : Option (List Char))
  /-- A word that looks like a flag and is none. -/
  | unknown (text : String)
deriving Repr, DecidableEq

namespace Word

/-- Whether a text is digits of any script with at most one point, and a digit after it. -/
def isNumber (s : List Char) : Bool :=
  let whole := s.takeWhile Text.isDigit
  match s.dropWhile Text.isDigit with
  | [] => !whole.isEmpty
  | '.' :: r => !r.isEmpty && r.all Text.isDigit
  | _ => false

/-- Whether a word after its dash is a negative number. One line feed at the end does not count. -/
def isNegativeNumber (s : List Char) : Bool :=
  isNumber (if s.getLast? = some '\n' then s.dropLast else s)

def cut (s : List Char) : List Char × Option (List Char) :=
  match s.dropWhile (· ≠ '=') with
  | [] => (s, none)
  | _ :: value => (s.takeWhile (· ≠ '='), some value)

/-- A word of two dashes and a name, which may be cut short where one flag only starts like it. -/
def ofLong (text : String) (s : List Char) : Except UsageError Word :=
  let (name, value) := cut s
  match Flag.all.find? fun f => f.word.toList == name with
  | some f => .ok (.flag f false value)
  | none =>
    match Flag.completions name with
    | [f] => .ok (.flag f false value)
    | [] => .ok (if text.toList.contains ' ' then .plain text else .unknown text)
    | fs => .error (.ambiguous text fs)

def ofShort (text : String) (letter : Char) (rest : List Char) : Word :=
  match Flag.ofLetter? letter with
  | some f =>
    .flag f true
      (match rest with
        | [] => none
        | '=' :: value => some value
        | value => some value)
  | none =>
    if isNegativeNumber (letter :: rest) || text.toList.contains ' ' then .plain text
    else .unknown text

def ofText (text : String) : Except UsageError Word :=
  match text.toList with
  | ['-', '-'] => .ok .separator
  | '-' :: '-' :: s => ofLong text s
  | '-' :: letter :: rest => .ok (ofShort text letter rest)
  | _ => .ok (.plain text)

def ofTexts : List String → Except UsageError (List Word)
  | [] => .ok []
  | text :: r =>
    match ofText text with
    | .error e => .error e
    | .ok .separator => .ok (.separator :: r.map .plain)
    | .ok word => (ofTexts r).map (word :: ·)

end Word

end LineShell.CommandLine
