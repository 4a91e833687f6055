import LineShell.Posix.Grammar

namespace LineShell.Posix

structure Insertion where
  name : Octets
  rest : Octets
  /-- Whether the text ends with a blank, so that the word after it may be an alias too. -/
  goesOn : Bool
deriving Repr, DecidableEq

/-- A script, or what is left of it to read, and the line that it starts on. -/
structure Source where
  inserted : List Insertion
  text : Octets
  line : Nat
deriving Repr, DecidableEq

def Source.ofText (text : Octets) : Source := ⟨[], text, 1⟩

structure Document where
  number : Nat
  /-- The line after the last of the document. -/
  mark : Octets
  /-- Whether parameters are replaced by their values. -/
  expands : Bool
  indented : Bool
deriving Repr, DecidableEq

def keywords : List String :=
  ["!", "case", "do", "done", "elif", "else", "esac", "fi", "for", "if", "in", "then", "until",
    "while", "\x7b", "\x7d"]

def specialBuiltins : List String :=
  [":", ".", "break", "continue", "eval", "exec", "exit", "export", "local", "readonly", "return",
    "set", "shift", "times", "trap", "unset"]

def isSpecial (name : Octets) : Bool := specialBuiltins.contains (String.ofList name)

inductive Token where
  | word (parts : Word)
  | keyword (name : String)
  | redirect (descriptor : Nat) (op : RedirectOp)
  | op (name : String)
  | lineEnd
  | scriptEnd

namespace Token

def quote (s : String) : String := "\"" ++ s ++ "\""

def describe : Token → String
  | .word _ => "word"
  | .keyword name | .op name => quote name
  | .redirect .. => "redirection"
  | .lineEnd => "newline"
  | .scriptEnd => "end of file"

def isOp (name : String) : Token → Bool
  | .op o => o == name
  | _ => false

def isKeyword (name : String) : Token → Bool
  | .keyword k => k == name
  | _ => false

def endsList : Token → Bool
  | .scriptEnd => true
  | .op name => name == ")" || name == ";;"
  | .keyword name =>
    ["do", "done", "elif", "else", "esac", "fi", "then", "\x7d"].contains name
  | _ => false

def toWord : Token → Word
  | .word w => w
  | .keyword name => name.toList.map fun c => .text [c] false
  | _ => []

end Token

structure Expecting where
  keywords : Bool
  aliases : Bool
  lineEnds : Bool
deriving Repr, DecidableEq

structure Reading extends Source where
  aliases : List (Octets × Octets)
  /-- The aliases in whose texts the script stands. -/
  within : List Octets
  /-- A token that has been put back. -/
  ahead : Option Token
  /-- Whether the next word may be an alias wherever it stands. -/
  aliasNext : Bool
  awaited : List Document
  /-- How many documents have been asked for. -/
  begun : Nat
  /-- The documents that have been read, by number. -/
  found : List (Nat × Word)
  /-- Documents that were read before. -/
  known : List (Nat × Word)
  /-- The document whose lines the text stands in, up to its mark. -/
  document : Option Document
  /-- Whether that document has come to its end. -/
  isEnded : Bool
  /-- In a script between backquotes, how much is left to read after it. -/
  outside : Option Nat

abbrev Reader := StateT Reading (Except Mistake)

namespace Reading

def settled (r : Reading) : Reading :=
  if r.inserted.isEmpty then r
  else
    let isUsedUp (i : Insertion) : Bool := i.rest.isEmpty
    { r with
      inserted := r.inserted.dropWhile isUsedUp
      aliasNext := r.aliasNext || (r.inserted.takeWhile isUsedUp).any (·.goesOn) }

def isAtInsertionEnd (r : Reading) : Bool := r.inserted.head?.any (·.rest.isEmpty)

def next? (r : Reading) : Option (Char × Reading) :=
  let r := r.settled
  if r.isEnded then none
  else match r.inserted, r.text with
  | i :: outer, _ =>
    match i.rest with
    | c :: rest => some (c, { r with inserted := { i with rest := rest } :: outer })
    | [] => none
  | [], c :: text => some (c, { r with text := text })
  | [], [] => none

def joined : Octets → Nat → Octets × Nat
  | '\\' :: '\n' :: text, line => joined text (line + 1)
  | text, line => (text, line)

def joinedFront (r : Reading) : Reading :=
  let r := r.settled
  if r.inserted.isEmpty && !r.isEnded then
    let (text, line) := joined r.text r.line
    { r with text := text, line := line }
  else r

def afterLine? : Octets → Reading → Option Reading
  | [], r =>
    match r.next? with
    | none => some r
    | some ('\n', r) => some r
    | some _ => none
  | m :: mark, r =>
    match r.next? with
    | some (c, r) => if c = m then afterLine? mark r else none
    | none => none

def aliasText? (r : Reading) (name : Octets) : Option Octets :=
  if r.inserted.any (·.name == name) || r.within.contains name then none
  else r.aliases.lookup name

def insert (r : Reading) (name text : Octets) : Reading :=
  if text.isEmpty then r
  else
    let goesOn := text.getLast?.any fun c => c == ' ' || c == '\t'
    { r with inserted := ⟨name, text, goesOn⟩ :: r.inserted }

end Reading

namespace Reader

def fail {α : Type} (message : String) : Reader α := do
  let r ← get
  throw ⟨r.line, message, r.outside.getD r.text.length⟩

def unexpected {α : Type} (t : Token) (expected : Option String) : Reader α :=
  fail (t.describe ++ " unexpected" ++
    (expected.map fun e => " (expecting " ++ e ++ ")").getD "")

def peek : Reader (Option Char) := do return (← get).next?.map (·.1)

def peekJoined : Reader (Option Char) := do
  modify Reading.joinedFront
  peek

def skip : Reader Unit := modify fun r => (r.next?.map (·.2)).getD r

def accept (c : Char) : Reader Bool := do
  if (← peekJoined) = some c then
    skip
    return true
  else return false

def countLine : Reader Unit := modify fun r => { r with line := r.line + 1 }

def putBack (t : Token) : Reader Unit := modify fun r => { r with ahead := some t }

def takeWhile (p : Char → Bool) : (budget : Nat) → Reader Octets
  | 0 => return []
  | n + 1 => do
    match ← peekJoined with
    | some c =>
      if p c then
        skip
        return c :: (← takeWhile p n)
      else return []
    | none => return []

def lineBegun (budget : Nat) : Reader Unit := do
  match (← get).document with
  | none => return
  | some d =>
    if d.expands then modify Reading.joinedFront
    if d.indented then let _ ← takeWhile (· == '\t') budget
    match (← get).afterLine? d.mark with
    | some r => set { r with line := r.line + 1, isEnded := true }
    | none => return

end Reader

end LineShell.Posix
